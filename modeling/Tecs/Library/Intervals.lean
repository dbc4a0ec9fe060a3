import Mathlib

set_option autoImplicit false

/-! Lists of closed ranges of numbers, and the set of numbers such a list covers. -/

/-- The two ends of a range; a range whose ends are crossed contains nothing. -/
class Bounds (R : Type) where
  lo : R → ℕ
  hi : R → ℕ

/-- A range is known by its two ends. -/
class ExactBounds (R : Type) [Bounds R] : Prop where
  ext : ∀ r s : R, Bounds.lo r = Bounds.lo s → Bounds.hi r = Bounds.hi s → r = s

namespace Intervals

open Bounds

variable {R : Type} [Bounds R]

def Contains (r : R) (n : ℕ) : Prop := lo r ≤ n ∧ n ≤ hi r

def Covers (rs : List R) (n : ℕ) : Prop := ∃ r ∈ rs, Contains r n

/-- At least one number lies between the two ranges. -/
def Before (a b : R) : Prop := hi a + 1 < lo b

def Separate (a b : R) : Prop := Before a b ∨ Before b a

def Overlap (a b : R) : Prop := ∃ n, Contains a n ∧ Contains b n

instance : Std.Symm (Separate (R := R)) := ⟨fun _ _ => Or.symm⟩

instance (r : R) (n : ℕ) : Decidable (Contains r n) := inferInstanceAs (Decidable (_ ∧ _))

instance (rs : List R) (n : ℕ) : Decidable (Covers rs n) :=
  inferInstanceAs (Decidable (∃ r ∈ rs, _))

instance (a b : R) : Decidable (Before a b) := inferInstanceAs (Decidable (_ < _))

instance (a b : R) : Decidable (Separate a b) := inferInstanceAs (Decidable (_ ∨ _))

/-- Sorted, with a gap after each range: the shortest list that covers its numbers. -/
structure Canonical (rs : List R) : Prop where
  proper : ∀ r ∈ rs, lo r ≤ hi r
  before : rs.Pairwise Before

/-- The ranges of a canonical list, in any order. -/
structure Apart (rs : List R) : Prop where
  proper : ∀ r ∈ rs, lo r ≤ hi r
  apart : rs.Pairwise Separate

@[simp] theorem not_covers_nil (n : ℕ) : ¬ Covers ([] : List R) n := by
  simp [Covers]

@[simp] theorem covers_cons (r : R) (rs : List R) (n : ℕ) :
    Covers (r :: rs) n ↔ Contains r n ∨ Covers rs n := by
  simp [Covers]

@[simp] theorem covers_append (rs ss : List R) (n : ℕ) :
    Covers (rs ++ ss) n ↔ Covers rs n ∨ Covers ss n := by
  simp [Covers, or_and_right, exists_or]

theorem covers_perm {rs ss : List R} (same : rs.Perm ss) (n : ℕ) : Covers rs n ↔ Covers ss n := by
  simp only [Covers, same.mem_iff]

theorem canonical_nil : Canonical ([] : List R) := ⟨by simp, List.Pairwise.nil⟩

theorem canonical_cons {r : R} {rs : List R} :
    Canonical (r :: rs) ↔ lo r ≤ hi r ∧ (∀ s ∈ rs, Before r s) ∧ Canonical rs := by
  constructor
  · intro canonical
    have before := List.pairwise_cons.mp canonical.before
    exact ⟨canonical.proper r (by simp), before.1,
      ⟨fun s mem => canonical.proper s (by simp [mem]), before.2⟩⟩
  · rintro ⟨proper, before, rest⟩
    refine ⟨?_, List.pairwise_cons.mpr ⟨before, rest.before⟩⟩
    intro s mem
    cases List.mem_cons.mp mem with
    | inl same => exact same ▸ proper
    | inr mem => exact rest.proper s mem

theorem canonical_singleton {r : R} : Canonical [r] ↔ lo r ≤ hi r := by
  simp [canonical_cons, canonical_nil]

theorem Canonical.apart {rs : List R} (canonical : Canonical rs) : Apart rs :=
  ⟨canonical.proper, canonical.before.imp Or.inl⟩

theorem Apart.perm {rs ss : List R} (apart : Apart rs) (same : rs.Perm ss) : Apart ss :=
  ⟨fun r mem => apart.proper r (same.mem_iff.mpr mem),
    (same.pairwise_iff Or.symm).mp apart.apart⟩

theorem Apart.sublist {rs ss : List R} (apart : Apart rs) (part : ss.Sublist rs) : Apart ss :=
  ⟨fun r mem => apart.proper r (part.mem mem), apart.apart.sublist part⟩

theorem apart_cons {r : R} {rs : List R} :
    Apart (r :: rs) ↔ lo r ≤ hi r ∧ (∀ s ∈ rs, Separate r s) ∧ Apart rs := by
  constructor
  · intro apart
    have away := List.pairwise_cons.mp apart.apart
    exact ⟨apart.proper r (by simp), away.1,
      ⟨fun s mem => apart.proper s (by simp [mem]), away.2⟩⟩
  · rintro ⟨proper, away, rest⟩
    refine ⟨?_, List.pairwise_cons.mpr ⟨away, rest.apart⟩⟩
    intro s mem
    cases List.mem_cons.mp mem with
    | inl same => exact same ▸ proper
    | inr mem => exact rest.proper s mem

theorem Apart.subperm {rs ss : List R} (apart : Apart rs) (part : ss.Subperm rs) : Apart ss := by
  obtain ⟨ts, same, sub⟩ := part
  exact (apart.sublist sub).perm same

theorem Apart.nodup {rs : List R} (apart : Apart rs) : rs.Nodup := by
  refine apart.apart.imp_of_mem ?_
  rintro r s mem _ away rfl
  have proper := apart.proper r mem
  simp only [Separate, Before] at away
  omega

theorem Apart.eq_of_overlap {rs : List R} (apart : Apart rs) {r s : R} (memR : r ∈ rs)
    (memS : s ∈ rs) (overlap : Overlap r s) : r = s := by
  by_contra different
  have away := apart.apart.forall memR memS different
  have ⟨n, inR, inS⟩ := overlap
  simp only [Separate, Before, Contains] at away inR inS
  omega

theorem Apart.exists_canonical {rs : List R} (apart : Apart rs) :
    ∃ ss : List R, ss.Perm rs ∧ Canonical ss := by
  have : Std.Total fun a b : R => lo a ≤ lo b := ⟨fun a b => Nat.le_total (lo a) (lo b)⟩
  have : IsTrans R fun a b => lo a ≤ lo b := ⟨fun _ _ _ => Nat.le_trans⟩
  have same := List.perm_insertionSort (fun a b : R => lo a ≤ lo b) rs
  have sorted := List.pairwise_insertionSort (fun a b : R => lo a ≤ lo b) rs
  have apart' := apart.perm same.symm
  refine ⟨_, same, apart'.proper, ?_⟩
  refine (apart'.apart.and sorted).imp_of_mem ?_
  rintro a b - memB ⟨away, le⟩
  have proper := apart'.proper b memB
  simp only [Separate, Before] at away ⊢
  omega

/-- A range that the list covers lies inside one range of it: there is a gap after each. -/
theorem Apart.exists_contains {rs : List R} (apart : Apart rs) {a b : ℕ} (le : a ≤ b)
    (covered : ∀ n, a ≤ n → n ≤ b → Covers rs n) : ∃ r ∈ rs, lo r ≤ a ∧ b ≤ hi r := by
  obtain ⟨r, mem, low, high⟩ := covered a (Nat.le_refl a) le
  by_cases short : hi r < b
  · obtain ⟨s, mem', low', high'⟩ := covered (hi r + 1) (by omega) short
    have different : r ≠ s := by
      rintro rfl
      omega
    have proper := apart.proper r mem
    have away := apart.apart.forall mem mem' different
    simp only [Separate, Before] at away
    omega
  · exact ⟨r, mem, low, by omega⟩

/-- Among three ranges of which two are from a list with gaps, two have a gap between them. -/
theorem Apart.exists_separate [DecidableEq R] {rs : List R} {r x y z : R} (apart : Apart rs)
    (three : [x, y, z].Subperm (r :: rs)) : Separate x y ∨ Separate x z ∨ Separate y z := by
  have two : ([x, y, z].erase r).Subperm rs := by
    have part := three.erase r
    rwa [List.erase_cons_head] at part
  have gaps := (apart.subperm two).apart
  simp only [List.erase_cons] at gaps
  by_cases atX : x = r
  · simp only [atX, beq_self_eq_true, if_true, List.pairwise_cons, List.mem_singleton,
      forall_eq] at gaps
    exact .inr (.inr gaps.1)
  · by_cases atY : y = r
    · simp only [atX, atY, beq_self_eq_true, if_true, beq_iff_eq, if_false, List.pairwise_cons,
        List.mem_singleton, forall_eq] at gaps
      exact .inr (.inl gaps.1)
    · simp only [atX, atY, beq_iff_eq, if_false, List.pairwise_cons, List.mem_cons,
        forall_eq_or_imp] at gaps
      exact .inl gaps.1.1

section Replace

variable {earlier later parts : List R} {r : R}

omit [Bounds R] in
theorem replace_pairwise {P : R → R → Prop} (whole : (earlier ++ r :: later).Pairwise P)
    (inner : parts.Pairwise P) (left : ∀ a s, P a r → s ∈ parts → P a s)
    (right : ∀ s b, P r b → s ∈ parts → P s b) : (earlier ++ (parts ++ later)).Pairwise P := by
  rw [List.pairwise_append, List.pairwise_cons] at whole
  obtain ⟨first, ⟨after, last⟩, across⟩ := whole
  rw [List.pairwise_append, List.pairwise_append]
  refine ⟨first, ⟨inner, last, ?_⟩, ?_⟩
  · intro s mem b memB
    exact right s b (after b memB) mem
  · intro a memA s mem
    cases List.mem_append.mp mem with
    | inl mem => exact left a s (across a memA r (by simp)) mem
    | inr mem => exact across a memA s (by simp [mem])

theorem Apart.replace (whole : Apart (earlier ++ r :: later)) (inner : Apart parts)
    (inside : ∀ s ∈ parts, lo r ≤ lo s ∧ hi s ≤ hi r) : Apart (earlier ++ (parts ++ later)) := by
  refine ⟨?_, ?_⟩
  · intro s mem
    simp only [List.mem_append] at mem
    rcases mem with mem | mem | mem
    · exact whole.proper s (by simp [mem])
    · exact inner.proper s mem
    · exact whole.proper s (by simp [mem])
  · refine replace_pairwise whole.apart inner.apart ?_ ?_
    · intro a s apart mem
      have within := inside s mem
      simp only [Separate, Before] at apart ⊢
      omega
    · intro s b apart mem
      have within := inside s mem
      simp only [Separate, Before] at apart ⊢
      omega

/-- What lies inside one range of the list lies in no other. -/
theorem Apart.not_covers_rest (whole : Apart (earlier ++ r :: later)) {n : ℕ}
    (inside : Contains r n) :
    ¬ Covers (earlier ++ later) n := by
  have front := apart_cons.mp (whole.perm List.perm_middle)
  rintro ⟨s, mem, contains⟩
  have away := front.2.1 s mem
  simp only [Contains, Separate, Before] at inside contains away
  omega

end Replace

/-- The ranges of a list with gaps are the longest ranges that the list covers. -/
theorem Apart.mem_iff [ExactBounds R] {rs : List R} (apart : Apart rs) {r : R}
    (proper : lo r ≤ hi r) :
    r ∈ rs ↔ (∀ n, Contains r n → Covers rs n) ∧ (∀ n, n + 1 = lo r → ¬ Covers rs n) ∧
      ¬ Covers rs (hi r + 1) := by
  constructor
  · intro mem
    have beside : ∀ n, ¬ Contains r n → hi r + 1 = n ∨ n + 1 = lo r → ¬ Covers rs n := by
      rintro n out next ⟨s, mem', contains⟩
      have different : r ≠ s := fun same => out (same ▸ contains)
      have away := apart.apart.forall mem mem' different
      simp only [Contains, Separate, Before] at contains away
      omega
    refine ⟨fun n contains => ⟨r, mem, contains⟩, fun n next => beside n ?_ (.inr next),
      beside _ ?_ (.inl rfl)⟩
    · simp only [Contains]
      omega
    · simp only [Contains]
      omega
  · rintro ⟨covered, below, above⟩
    obtain ⟨s, mem, low, high⟩ := apart.exists_contains proper fun n low high =>
        covered n ⟨low, high⟩
    have starts : lo r = lo s := by
      by_contra different
      exact below (lo r - 1) (by omega) ⟨s, mem, by simp only [Contains]; omega⟩
    have ends : hi r = hi s := by
      by_contra different
      exact above ⟨s, mem, by simp only [Contains]; omega⟩
    rwa [ExactBounds.ext r s starts ends]

/-! Two lists with gaps, where the second covers what the first does and one range more. -/
section Union

variable [ExactBounds R] {rs us : List R} {q : R} (apart : Apart rs) (apart' : Apart us)
  (proper : lo q ≤ hi q) (union : ∀ n, Covers us n ↔ Covers rs n ∨ Contains q n)

include apart apart' proper union

theorem contains_of_new {r : R} (mem : r ∈ us) (fresh : r ∉ rs) : lo r ≤ lo q ∧ hi q ≤ hi r := by
  have properR := apart'.proper r mem
  have longest := (apart'.mem_iff properR).mp mem
  have ⟨s, memS, low, high⟩ := apart'.exists_contains proper fun n low high =>
    (union n).mpr (.inr ⟨low, high⟩)
  -- some number of the range is new, so the range overlaps the one around the added range
  have ⟨n, inside, bare⟩ : ∃ n, Contains r n ∧ ¬ Covers rs n := by
    by_contra none
    have covered : ∀ n, Contains r n → Covers rs n :=
      fun n inside => by_contra fun bare => none ⟨n, inside, bare⟩
    refine fresh ((apart.mem_iff properR).mpr ⟨covered, fun n next found => ?_, fun found => ?_⟩)
    · exact longest.2.1 n next ((union n).mpr (.inl found))
    · exact longest.2.2 ((union _).mpr (.inl found))
  have inQ : Contains q n := ((union n).mp ⟨r, mem, inside⟩).resolve_left bare
  have same := apart'.eq_of_overlap mem memS
    ⟨n, inside, Nat.le_trans low inQ.1, Nat.le_trans inQ.2 high⟩
  exact same ▸ ⟨low, high⟩

theorem mem_union_iff {r : R} (mem : r ∈ rs) :
    r ∈ us ↔ Separate r q ∨ (lo r ≤ lo q ∧ hi q ≤ hi r) := by
  have properR := apart.proper r mem
  have longest := (apart.mem_iff properR).mp mem
  have ⟨s, memS, low, high⟩ := apart'.exists_contains proper fun n low high =>
    (union n).mpr (.inr ⟨low, high⟩)
  constructor
  · intro mem'
    by_cases same : r = s
    · exact .inr (same ▸ ⟨low, high⟩)
    · have away := apart'.apart.forall mem' memS same
      simp only [Separate, Before] at away ⊢
      omega
  · intro place
    refine (apart'.mem_iff properR).mpr ⟨fun n inside => (union n).mpr (.inl (longest.1 n inside)),
      fun n next => ?_, ?_⟩
    · rw [union, not_or]
      refine ⟨longest.2.1 n next, ?_⟩
      simp only [Contains, Separate, Before] at place ⊢
      omega
    · rw [union, not_or]
      refine ⟨longest.2.2, ?_⟩
      simp only [Contains, Separate, Before] at place ⊢
      omega

end Union

/-! Two lists with gaps, where the second lacks a part of one range of the first. -/
section Difference

variable [ExactBounds R] {rs us : List R} {q r : R} (apart : Apart rs) (apart' : Apart us)
  (proper : lo q ≤ hi q) (mem : r ∈ rs) (low : lo r ≤ lo q) (high : hi q ≤ hi r)
  (difference : ∀ n, Covers us n ↔ Covers rs n ∧ ¬ Contains q n)

include apart apart' proper mem low high difference

theorem mem_difference_iff {s : R} (memS : s ∈ rs) : s ∈ us ↔ s ≠ r := by
  have properS := apart.proper s memS
  have longest := (apart.mem_iff properS).mp memS
  constructor
  · rintro found rfl
    exact ((difference (lo q)).mp ⟨s, found, low, Nat.le_trans proper high⟩).2
      ⟨Nat.le_refl _, proper⟩
  · intro other
    have away := apart.apart.forall memS mem other
    refine (apart'.mem_iff properS).mpr
      ⟨fun n inside => ?_, fun n next found => ?_, fun found => ?_⟩
    · refine (difference n).mpr ⟨longest.1 n inside, ?_⟩
      simp only [Contains, Separate, Before] at inside away ⊢
      omega
    · exact longest.2.1 n next ((difference n).mp found).1
    · exact longest.2.2 ((difference _).mp found).1

theorem overlap_of_remains {m : R} (memM : m ∈ us) (fresh : m ∉ rs) : Overlap m r := by
  have properM := apart'.proper m memM
  have start : Contains m (lo m) := ⟨Nat.le_refl _, properM⟩
  have ⟨s, memS, inside⟩ := ((difference (lo m)).mp ⟨m, memM, start⟩).1
  have same : s = r := by
    by_contra other
    have kept := (mem_difference_iff apart apart' proper mem low high difference memS).mpr other
    have equal := apart'.eq_of_overlap memM kept ⟨lo m, start, inside⟩
    exact fresh (equal ▸ memS)
  exact ⟨lo m, start, same ▸ inside⟩

end Difference

section Map

variable {S : Type} [Bounds S] {f : S → R} (low : ∀ s, lo (f s) = lo s)
    (high : ∀ s, hi (f s) = hi s)

include low high

theorem covers_map (ss : List S) (n : ℕ) : Covers (ss.map f) n ↔ Covers ss n := by
  simp only [Covers, Contains, List.mem_map, exists_exists_and_eq_and, low, high]

theorem apart_map {ss : List S} : Apart (ss.map f) ↔ Apart ss := by
  have pairs : (ss.map f).Pairwise Separate ↔ ss.Pairwise Separate := by
    simp only [List.pairwise_map, Separate, Before, low, high]
    rfl
  have ends : (∀ r ∈ ss.map f, lo r ≤ hi r) ↔ ∀ s ∈ ss, lo s ≤ hi s := by
    simp only [List.forall_mem_map, low, high]
  exact ⟨fun apart => ⟨ends.mp apart.proper, pairs.mp apart.apart⟩,
    fun apart => ⟨ends.mpr apart.proper, pairs.mpr apart.apart⟩⟩

theorem canonical_map {ss : List S} : Canonical (ss.map f) ↔ Canonical ss := by
  have pairs : (ss.map f).Pairwise Before ↔ ss.Pairwise Before := by
    simp only [List.pairwise_map, Before, low, high]
    rfl
  have ends : (∀ r ∈ ss.map f, lo r ≤ hi r) ↔ ∀ s ∈ ss, lo s ≤ hi s := by
    simp only [List.forall_mem_map, low, high]
  exact ⟨fun canonical => ⟨ends.mp canonical.proper, pairs.mp canonical.before⟩,
    fun canonical => ⟨ends.mpr canonical.proper, pairs.mpr canonical.before⟩⟩

end Map

end Intervals
