import Tecs.Vnm.RangeCollection

set_option autoImplicit false

namespace Tecs

structure TVlanRangeItem where
  dwVlanIDStart : UInt32
  dwVlanIDEnd : UInt32
deriving Repr, DecidableEq

instance : Bounds TVlanRangeItem := ⟨fun t => t.dwVlanIDStart.toNat, fun t => t.dwVlanIDEnd.toNat⟩

instance : ExactBounds TVlanRangeItem where
  ext := by
    rintro ⟨start, stop⟩ ⟨start', stop'⟩ starts ends
    have sameStart : start = start' := UInt32.toNat_inj.mp starts
    have sameStop : stop = stop' := UInt32.toNat_inj.mp ends
    rw [sameStart, sameStop]

namespace VlanRange

open Bounds Intervals RangeArithmetic

def VNET_MIN_VLAN_ID : UInt32 := 1
def VNET_MAX_MAP_VLAN_ID : UInt32 := 4094

def isValidVlanRange (t : TVlanRangeItem) : Bool :=
  !(t.dwVlanIDStart < VNET_MIN_VLAN_ID || t.dwVlanIDStart > VNET_MAX_MAP_VLAN_ID ||
    t.dwVlanIDEnd < VNET_MIN_VLAN_ID || t.dwVlanIDEnd > VNET_MAX_MAP_VLAN_ID ||
    t.dwVlanIDStart > t.dwVlanIDEnd)

theorem isValidVlanRange_iff (t : TVlanRangeItem) : isValidVlanRange t = true ↔
    1 ≤ t.dwVlanIDStart.toNat ∧ t.dwVlanIDStart.toNat ≤ t.dwVlanIDEnd.toNat ∧
      t.dwVlanIDEnd.toNat ≤ 4094 := by
  simp only [isValidVlanRange, VNET_MIN_VLAN_ID, VNET_MAX_MAP_VLAN_ID, Bool.not_eq_true',
    Bool.or_eq_false_iff, decide_eq_false_iff_not, gt_iff_lt, UInt32.lt_iff_toNat_lt,
    UInt32.reduceToNat]
  omega

def kind : RangeKind TVlanRangeItem where
  isValidRange := isValidVlanRange
  toRange t := ⟨t.dwVlanIDStart, t.dwVlanIDEnd⟩
  ofRange r := ⟨r.dwStart, r.dwEnd⟩
  proper t valid := UInt32.le_iff_toNat_le.mpr ((isValidVlanRange_iff t).mp valid).2.1
  toRange_ofRange _ := rfl

theorem covers_ranges (stored : List TVlanRangeItem) (n : ℕ) :
    Covers (kind.ranges stored) n ↔ Covers stored n :=
  covers_map (f := kind.toRange) (fun _ => rfl) (fun _ => rfl) stored n

theorem apart_ranges {stored : List TVlanRangeItem} : Apart (kind.ranges stored) ↔ Apart stored :=
  apart_map (f := kind.toRange) (fun _ => rfl) fun _ => rfl

theorem canonical_ranges {stored : List TVlanRangeItem} :
    Canonical (kind.ranges stored) ↔ Canonical stored :=
  canonical_map (f := kind.toRange) (fun _ => rfl) fun _ => rfl

def addValidRange (stored : List TVlanRangeItem) (t : TVlanRangeItem) : Int × List TVlanRangeItem :=
  RangeKind.addValidRange stored t

def addRange (std : StdSort) (stored : List TVlanRangeItem) (t : TVlanRangeItem) :
    Int × List TVlanRangeItem :=
  kind.addRange std stored t

def delRange (stored : List TVlanRangeItem) (t : TVlanRangeItem) : Int × List TVlanRangeItem :=
  kind.delRange stored t

/-- The list left by one deletion after the other. -/
def delAll (stored requests : List TVlanRangeItem) : List TVlanRangeItem :=
  requests.foldl (fun stored t => (delRange stored t).2) stored

theorem loadAll_eq (rows : List TVlanRangeItem) :
    rows.foldl (fun stored t => (addValidRange stored t).2) [] = rows := by
  induction rows using List.reverseRecOn with
  | nil => rfl
  | append_singleton rows t ih =>
      rw [List.foldl_append, ih]
      rfl

/-- No VLAN range reaches the numbers whose sums wrap. -/
theorem topFits_of_le {rs : List TRange} (bounded : ∀ r ∈ rs, hi r ≤ 4094) : TopFits rs := by
  intro r others split top
  have bound := bounded r (split.mem_iff.mpr List.mem_cons_self)
  omega

theorem exact_le {stored calls : List TVlanRangeItem} (exact : kind.Exact stored calls) :
    ∀ r ∈ kind.ranges stored, hi r ≤ 4094 := by
  intro r mem
  have last : Covers (kind.ranges stored) (hi r) :=
    ⟨r, mem, exact.canonical.proper r mem, Nat.le_refl _⟩
  have ⟨t, _, valid, contains⟩ := (exact.covers _).mp last
  exact Nat.le_trans contains.2 ((isValidVlanRange_iff t).mp valid).2.2

/-- For VLAN ranges the list is exact after every run. -/
theorem addAll_exact (std : StdSort) (calls : List TVlanRangeItem) :
    kind.Exact (kind.addAll std calls) calls := by
  induction calls using List.reverseRecOn with
  | nil => exact RangeKind.exact_nil
  | append_singleton calls t ih =>
      rw [RangeKind.addAll_append]
      refine (RangeKind.Exact.add_iff std ih t).mpr fun valid => topFits_of_le ?_
      intro r mem
      cases List.mem_cons.mp mem with
      | inl same => exact same ▸ ((isValidVlanRange_iff t).mp valid).2.2
      | inr mem => exact exact_le ih r mem

def Proper (stored : List TVlanRangeItem) : Prop := ∀ r ∈ kind.ranges stored, lo r ≤ hi r

/-- Lists left by additions, and lists read row by row that are such lists in another order, have
gaps between their ranges. -/
theorem addAll_apart (std : StdSort) (calls rows : List TVlanRangeItem)
    (read : rows.Perm (kind.addAll std calls)) :
    let stored := rows.foldl (fun stored t => (addValidRange stored t).2) []
    Proper stored ∧ Apart (kind.ranges stored) := by
  have apart := (addAll_exact std calls).canonical.apart.perm (read.map kind.toRange).symm
  intro stored
  have same : stored = rows := loadAll_eq rows
  rw [same]
  exact ⟨apart.proper, apart⟩

/-- An addition to a list with gaps leaves the canonical form of the union. -/
theorem addRange_canonical (std : StdSort) {stored : List TVlanRangeItem} {t : TVlanRangeItem}
    (apart : Apart stored) (bounded : ∀ s ∈ stored, hi s ≤ 4094)
    (safe : SortsSafely (kind.gathered stored t)) (valid : isValidVlanRange t = true) :
    (addRange std stored t).1 = 0 ∧ Canonical (addRange std stored t).2 ∧
      ∀ n, Covers (addRange std stored t).2 n ↔ Covers stored n ∨ Contains t n := by
  have low : ∀ r ∈ kind.toRange t :: kind.ranges stored, hi r ≤ 4094 := by
    refine List.forall_mem_cons.mpr ⟨((isValidVlanRange_iff t).mp valid).2.2, ?_⟩
    exact List.forall_mem_map.mpr bounded
  have ⟨done, canonical, covers⟩ :=
    @RangeKind.addRange_canonical _ kind std stored t (apart_ranges.mpr apart) safe valid
      fun r mem => Nat.lt_of_le_of_lt (low r mem) (by decide)
  refine ⟨done, canonical_ranges.mp canonical, fun n => ?_⟩
  have union := covers n
  rw [covers_ranges, covers_ranges] at union
  exact union

/-- What one deletion does to a list: the request has to lie inside one stored range, which for
ranges with gaps between them means that they cover it. -/
structure Deletes (stored : List TVlanRangeItem) (request : TVlanRangeItem)
    (result : Int × List TVlanRangeItem) : Prop where
  unchanged : result.1 ≠ 0 → result.2 = stored
  invalid : isValidVlanRange request = false → result.1 ≠ 0
  empty : stored = [] → isValidVlanRange request = true → result.1 = 0
  contained : stored ≠ [] → isValidVlanRange request = true →
    (result.1 = 0 ↔ ∃ r ∈ kind.ranges stored,
      lo r ≤ lo (kind.toRange request) ∧ hi (kind.toRange request) ≤ hi r)
  covered : Apart (kind.ranges stored) → stored ≠ [] → isValidVlanRange request = true →
    (result.1 = 0 ↔ ∀ n, Contains (kind.toRange request) n → Covers (kind.ranges stored) n)
  difference : Apart (kind.ranges stored) → result.1 = 0 → ∀ n,
    Covers (kind.ranges result.2) n ↔
      Covers (kind.ranges stored) n ∧ ¬ Contains (kind.toRange request) n
  proper : Proper result.2
  apart : Apart (kind.ranges stored) → Apart (kind.ranges result.2)

theorem delRange_empty_deletes (request : TVlanRangeItem)
    (valid : isValidVlanRange request = true) : Deletes [] request (0, []) where
  unchanged _ := rfl
  invalid refused := absurd valid (by simp [refused])
  empty _ _ := rfl
  contained filled _ := absurd rfl filled
  covered _ filled _ := absurd rfl filled
  difference _ _ n := by simp [RangeKind.ranges]
  proper := by simp [Proper, RangeKind.ranges]
  apart kept := kept

theorem delRange_invalid_deletes {stored : List TVlanRangeItem} (proper : Proper stored)
    {request : TVlanRangeItem} (invalid : ¬ isValidVlanRange request = true) :
    Deletes stored request (-1, stored) where
  unchanged _ := rfl
  invalid _ := by simp
  empty _ valid := absurd valid invalid
  contained _ valid := absurd valid invalid
  covered _ _ valid := absurd valid invalid
  difference _ done := by simp at done
  proper := proper
  apart kept := kept

theorem delRange_deletes {stored : List TVlanRangeItem} (proper : Proper stored)
    (request : TVlanRangeItem) : Deletes stored request (delRange stored request) := by
  by_cases valid : isValidVlanRange request = true
  · by_cases none : stored = []
    · subst none
      have result : delRange [] request = (0, []) := RangeKind.delRange_empty valid
      rw [result]
      exact delRange_empty_deletes request valid
    · have single : (delRange stored request).1 = 0 ↔ ∃ r ∈ kind.ranges stored,
          lo r ≤ lo (kind.toRange request) ∧ hi (kind.toRange request) ≤ hi r :=
        RangeKind.delRange_done_iff valid proper none
      have kept : (delRange stored request).1 ≠ 0 → (delRange stored request).2 = stored :=
        RangeKind.delRange_unchanged
      refine ⟨kept, fun refused => absurd valid (by simp [refused]),
        fun empty => absurd empty none, fun _ _ => single, ?_,
        fun apart => RangeKind.covers_delRange apart none, ?_, ?_⟩
      · intro apart _ _
        rw [single]
        constructor
        · rintro ⟨r, mem, low, high⟩ n contains
          exact ⟨r, mem, Nat.le_trans low contains.1, Nat.le_trans contains.2 high⟩
        · intro covered
          exact apart.exists_contains (RangeKind.proper_toRange valid)
            fun n low high => covered n ⟨low, high⟩
      · by_cases done : (delRange stored request).1 = 0
        · exact RangeKind.proper_delRange proper none done
        · rw [kept done]
          exact proper
      · intro apart
        by_cases done : (delRange stored request).1 = 0
        · exact RangeKind.apart_delRange apart none done
        · rw [kept done]
          exact apart
  · have result : delRange stored request = (-1, stored) := RangeKind.delRange_rejected valid
    rw [result]
    exact delRange_invalid_deletes proper valid

theorem delAll_append (stored requests : List TVlanRangeItem) (request : TVlanRangeItem) :
    delAll stored (requests ++ [request]) = (delRange (delAll stored requests) request).2 := by
  simp [delAll]

theorem delAll_kept {stored : List TVlanRangeItem} (proper : Proper stored)
    (requests : List TVlanRangeItem) :
    Proper (delAll stored requests) ∧
      (Apart (kind.ranges stored) → Apart (kind.ranges (delAll stored requests))) := by
  induction requests using List.reverseRecOn with
  | nil => exact ⟨proper, fun apart => apart⟩
  | append_singleton requests request ih =>
      rw [delAll_append]
      have step := delRange_deletes ih.1 request
      exact ⟨step.proper, fun apart => step.apart (ih.2 apart)⟩

/-- Each deletion of a run does so to the list the earlier ones left, and leaves the gaps. -/
theorem delAll_deletes {stored : List TVlanRangeItem} (proper : Proper stored)
    (requests : List TVlanRangeItem) (request : TVlanRangeItem) :
    Deletes (delAll stored requests) request (delRange (delAll stored requests) request) ∧
      (Apart (kind.ranges stored) → Apart (kind.ranges (delAll stored requests))) := by
  have kept := delAll_kept proper requests
  exact ⟨delRange_deletes kept.1 request, kept.2⟩

/-- Rows of the database in the order in which they were read. -/
theorem delAll_deletes_rows :
    Proper [⟨10, 20⟩, ⟨1, 5⟩] ∧
      Deletes (delAll [⟨10, 20⟩, ⟨1, 5⟩] [⟨12, 13⟩]) ⟨4, 5⟩
        (delRange (delAll [⟨10, 20⟩, ⟨1, 5⟩] [⟨12, 13⟩]) ⟨4, 5⟩) := by
  have proper : Proper [⟨10, 20⟩, ⟨1, 5⟩] := by
    unfold Proper
    decide
  exact ⟨proper, (delAll_deletes proper [⟨12, 13⟩] ⟨4, 5⟩).1⟩

/-- An empty list lets go of what it never held, and two touching ranges together hold what
neither of them lets go of. -/
theorem deletion_not_by_coverage :
    (delRange [] ⟨3, 8⟩).1 = 0 ∧ ¬ Covers (kind.ranges []) 3 ∧
    (delRange [⟨1, 5⟩, ⟨6, 10⟩] ⟨3, 8⟩).1 = -1 ∧
    ∀ n, Contains (kind.toRange ⟨3, 8⟩) n → Covers (kind.ranges [⟨1, 5⟩, ⟨6, 10⟩]) n := by
  refine ⟨by decide, by decide, by decide, ?_⟩
  intro n contains
  simp only [Covers, Contains, lo_eq, hi_eq, RangeKind.ranges, kind] at contains ⊢
  simp at contains ⊢
  omega

end VlanRange

end Tecs
