import Tecs.Vnm.RangeArithm

set_option autoImplicit false

/-! What `CompareRange` is as an order, and what `std::sort` asks of it. -/

namespace Tecs.RangeArithmetic

open Bounds

/-- `AddRange` lets no range with crossed ends in. -/
theorem addRange_keeps {arith : RangeArithmetic} (proper : ∀ r ∈ arith.vecRange, lo r ≤ hi r)
    (tRange : TRange) : ∀ r ∈ (addRange arith tRange).2.vecRange, lo r ≤ hi r := by
  unfold addRange
  split
  · exact proper
  · rename_i fits
    intro r member
    have either : r ∈ arith.vecRange ∨ r = tRange := by simpa using member
    cases either with
    | inl old => exact proper r old
    | inr new =>
        subst new
        exact UInt32.le_iff_toNat_le.mp (UInt32.not_lt.mp fits)

theorem compareRange_iff (a b : TRange) :
    compareRange a b ↔ hi a ≤ lo b ∨ lo a ≤ lo b := by
  rw [compareRange, Bool.or_eq_true, decide_eq_true_iff, decide_eq_true_iff,
    UInt32.le_iff_toNat_le, UInt32.le_iff_toNat_le]
  rfl

theorem compareRange_self (r : TRange) : compareRange r r := by
  rw [compareRange_iff]
  exact Or.inr (Nat.le_refl (lo r))

/-- The first test of the two decides nothing when the ends are not crossed: it is the order by
the starts with ties taken both ways, the opposite of the strict one. -/
theorem compareRange_proper {a : TRange} (proper : lo a ≤ hi a) (b : TRange) :
    compareRange a b ↔ ¬ lo b < lo a := by
  rw [compareRange_iff]
  omega

theorem compareRange_both {a b : TRange} (left : lo a ≤ hi a) (right : lo b ≤ hi b) :
    compareRange a b ∧ compareRange b a ↔ a.dwStart = b.dwStart := by
  rw [compareRange_proper left, compareRange_proper right, ← UInt32.toNat_inj,
    ← lo_eq, ← lo_eq]
  omega

section Collected

variable {rs : Set TRange} (proper : ∀ r ∈ rs, lo r ≤ hi r)
include proper

theorem compareRange_preorder : IsPreorder rs fun a b => compareRange a b where
  refl a := compareRange_self a
  trans a b c first second := by
    rw [compareRange_proper (proper a a.2)] at first ⊢
    rw [compareRange_proper (proper b b.2)] at second
    omega

theorem compareRange_total : Std.Total fun a b : rs => compareRange a b where
  total a b := by
    rw [compareRange_proper (proper a a.2), compareRange_proper (proper b b.2)]
    omega

end Collected

/-- Strictness is what fails, and it fails for every range, since none is kept apart from
itself. -/
theorem compareRange_strict_iff (rs : Set TRange) :
    IsStrictWeakOrder rs (fun a b => compareRange a b) ↔ rs = ∅ := by
  constructor
  · intro order
    apply Set.eq_empty_of_forall_notMem
    intro r member
    exact order.irrefl ⟨r, member⟩ (compareRange_self r)
  · intro empty
    subst empty
    have nothing (r : (∅ : Set TRange)) : False := r.2
    exact { irrefl := fun a => (nothing a).elim
            trans := fun a => (nothing a).elim
            incomp_trans := fun a => (nothing a).elim }

/-- A range that `AddRange` has taken twice. -/
theorem equal_ranges_both_before :
    ((removeAll.addRange ⟨5, 9⟩).2.addRange ⟨5, 9⟩).2.vecRange = [⟨5, 9⟩, ⟨5, 9⟩] ∧
      compareRange ⟨5, 9⟩ ⟨5, 9⟩ ∧
      ¬ IsStrictWeakOrder TRange fun a b => compareRange a b := by
  have before : compareRange ⟨5, 9⟩ ⟨5, 9⟩ := by decide
  refine ⟨by decide, before, fun order => ?_⟩
  exact order.irrefl ⟨5, 9⟩ before

end Tecs.RangeArithmetic
