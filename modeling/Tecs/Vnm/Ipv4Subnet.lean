import Tecs.Vnm.Ipv4Addr

set_option autoImplicit false

/-! Valid masks are the numbers whose highest bits are set; the addresses of a subnet are those
that share a quotient. -/

namespace Tecs.CIPv4Addr

/-- The mask that leaves the lowest bits to the host. -/
def hostMask (k : ℕ) : UInt32 := UInt32.ofNat (2 ^ 32 - 2 ^ k)

theorem hostMask_toNat {k : ℕ} (small : k ≤ 32) : (hostMask k).toNat = 2 ^ 32 - 2 ^ k := by
  have power : 0 < 2 ^ k := Nat.two_pow_pos k
  have below : 2 ^ k ≤ 2 ^ 32 := Nat.pow_le_pow_right (by decide) small
  exact UInt32.toNat_ofNat_of_lt' (by show 2 ^ 32 - 2 ^ k < 2 ^ 32; omega)

/-- A mask that passes the loop has its highest bits set, as far as any. -/
theorem maskLoop_form (left : ℕ) : ∀ {m : UInt32}, left ≤ 32 → m.toNat % 2 ^ (32 - left) = 0 →
    maskLoop left m = true → ∃ k ≤ 32, m.toNat = 2 ^ 32 - 2 ^ k := by
  induction left with
  | zero =>
      intro m _ low _
      have bound := m.toNat_lt
      exact ⟨32, Nat.le_refl _, by omega⟩
  | succ left ih =>
      intro m small low passed
      rw [maskLoop] at passed
      have bound := m.toNat_lt
      by_cases zero : m = 0
      · exact ⟨32, Nat.le_refl _, by simp [zero]⟩
      · rw [if_neg zero] at passed
        split at passed
        · cases passed
        · rename_i top
          have high : 2 ^ 31 ≤ m.toNat := by
            by_contra less
            apply top
            apply UInt32.toNat_inj.mp
            rw [UInt32.toNat_and]
            have value : (0x80000000 : UInt32).toNat = 2 ^ 31 := rfl
            rw [value, Nat.and_comm, Nat.and_two_pow]
            have bit : m.toNat.testBit 31 = false := Nat.testBit_lt_two_pow (by omega)
            simp [bit]
          have shifted : (m <<< 1).toNat = 2 * m.toNat - 2 ^ 32 := by
            rw [UInt32.toNat_shiftLeft]
            have one : (1 : UInt32).toNat % 32 = 1 := rfl
            rw [one, Nat.shiftLeft_eq]
            omega
          have split : 2 ^ (32 - left) = 2 * 2 ^ (32 - (left + 1)) := by
            have next : 32 - left = 32 - (left + 1) + 1 := by omega
            rw [next, Nat.pow_succ, Nat.mul_comm]
          have whole : 2 ^ (32 - left) ∣ 2 ^ 32 := Nat.pow_dvd_pow 2 (by omega)
          have divides : 2 ^ (32 - left) ∣ 2 * m.toNat := by
            rw [split]
            exact Nat.mul_dvd_mul_left 2 (Nat.dvd_of_mod_eq_zero low)
          have lowNext : (m <<< 1).toNat % 2 ^ (32 - left) = 0 := by
            rw [shifted]
            exact Nat.mod_eq_zero_of_dvd (Nat.dvd_sub divides whole)
          have ⟨k, le, form⟩ := ih (by omega) lowNext passed
          rw [shifted] at form
          cases k with
          | zero => omega
          | succ k =>
              refine ⟨k, by omega, ?_⟩
              have power : 2 ^ (k + 1) = 2 * 2 ^ k := by rw [Nat.pow_succ, Nat.mul_comm]
              have below : 2 ^ (k + 1) ≤ 2 ^ 32 := Nat.pow_le_pow_right (by decide) le
              omega

theorem isValidMask_form {m : UInt32} (valid : isValidMask m = true) :
    ∃ k, (1 ≤ k ∧ k ≤ 31) ∧ m = hostMask k := by
  simp only [isValidMask, Bool.and_eq_true, Bool.not_eq_true', Bool.or_eq_false_iff] at valid
  have ⟨⟨zeros, ones⟩, passed⟩ := valid
  have ⟨k, le, form⟩ := maskLoop_form 32 (Nat.le_refl _) (Nat.mod_one _) passed
  have same : m = hostMask k := UInt32.toNat_inj.mp (by rw [form, hostMask_toNat le])
  refine ⟨k, ⟨?_, ?_⟩, same⟩
  · by_contra less
    have zero : k = 0 := by omega
    have all : checkAddr .IPV4_ADDR_ALL_ONES (hostMask 0) = true := by decide
    rw [same, zero, all] at ones
    cases ones
  · by_contra more
    have whole : k = 32 := by omega
    have all : checkAddr .IPV4_ADDR_ALL_ZEROS (hostMask 32) = true := by decide
    rw [same, whole, all] at zeros
    cases zeros

/-- Masks with the same prefix length are the same. -/
theorem prefixLen_inj : ∀ k < 32, 1 ≤ k → getMaskPrefixLen (hostMask k) = 32 - k := by
  decide

/-- On a host of either order, the mask that is less as a word in network order is the shorter. -/
theorem h2NL_lt : ∀ k < 32, ∀ l < 32, ∀ host : Bool, 1 ≤ k → 1 ≤ l →
    (h2NL host (hostMask k) < h2NL host (hostMask l) ↔ l < k) := by
  decide

theorem and_hostMask (a : UInt32) {k : ℕ} (small : k ≤ 32) :
    (a &&& hostMask k).toNat = a.toNat / 2 ^ k * 2 ^ k := by
  have mask : 2 ^ 32 - 2 ^ k = 2 ^ k * (2 ^ (32 - k) - 1) := by
    rw [Nat.mul_sub, ← Nat.pow_add, Nat.mul_one]
    congr 2
    omega
  rw [UInt32.toNat_and, hostMask_toNat small, mask, Nat.mul_comm _ (2 ^ k)]
  apply Nat.eq_of_testBit_eq
  intro i
  rw [Nat.testBit_and, Nat.testBit_two_pow_mul, Nat.testBit_two_pow_mul,
    Nat.testBit_two_pow_sub_one, Nat.testBit_div_two_pow]
  by_cases host : i < k
  · simp [Nat.not_le.mpr host]
  · have at_ : i - k + k = i := by omega
    by_cases inside : i < 32
    · have place : i - k < 32 - k := by omega
      simp [at_, place, Bool.and_comm]
    · have bit : a.toNat.testBit i = false :=
        Nat.testBit_lt_two_pow
          (Nat.lt_of_lt_of_le a.toNat_lt (Nat.pow_le_pow_right (by decide) (by omega)))
      simp [at_, bit]

/-- Two addresses lie in one subnet when they leave the same quotient. -/
theorem and_eq_iff (a b : UInt32) {k : ℕ} (small : k ≤ 32) :
    a &&& hostMask k = b &&& hostMask k ↔ a.toNat / 2 ^ k = b.toNat / 2 ^ k := by
  rw [← UInt32.toNat_inj, and_hostMask a small, and_hostMask b small]
  exact Nat.mul_left_inj (Nat.two_pow_pos k).ne'

/-- What lies between two addresses of a subnet lies in it. -/
theorem and_between {a b c m : UInt32} (valid : isValidMask m = true) (same : a &&& m = b &&& m)
    (low : a ≤ c) (high : c ≤ b) : c &&& m = a &&& m := by
  have ⟨k, ⟨_, small⟩, form⟩ := isValidMask_form valid
  subst form
  rw [and_eq_iff _ _ (by omega)] at same ⊢
  have below : a.toNat / 2 ^ k ≤ c.toNat / 2 ^ k := Nat.div_le_div_right low
  have above : c.toNat / 2 ^ k ≤ b.toNat / 2 ^ k := Nat.div_le_div_right high
  omega

/-- Addresses of one subnet share every shorter network. -/
theorem and_shorter {a b : UInt32} {k l : ℕ} (le : l ≤ k) (small : k ≤ 32)
    (same : a &&& hostMask l = b &&& hostMask l) : a &&& hostMask k = b &&& hostMask k := by
  rw [and_eq_iff _ _ (by omega)] at same
  rw [and_eq_iff _ _ small]
  have split : 2 ^ k = 2 ^ l * 2 ^ (k - l) := by
    rw [← Nat.pow_add]
    congr 1
    omega
  rw [split, ← Nat.div_div_eq_div_mul, ← Nat.div_div_eq_div_mul, same]

end Tecs.CIPv4Addr
