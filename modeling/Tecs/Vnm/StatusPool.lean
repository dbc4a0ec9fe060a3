import Tecs.Library.Run
import Tecs.Vnm.VlanRange

set_option autoImplicit false

namespace Tecs

/-! The status vectors of the VLAN and segment pools. -/

structure TSegmentRangeItem where
  dwSegmentIDStart : UInt32
  dwSegmentIDEnd : UInt32
deriving Repr, DecidableEq

instance : Bounds TSegmentRangeItem :=
  ⟨fun t => t.dwSegmentIDStart.toNat, fun t => t.dwSegmentIDEnd.toNat⟩

namespace SegmentRange

def VNET_MIN_SEGMENT_ID : UInt32 := 1
def VNET_MAX_MAP_SEGMENT_ID : UInt32 := 16000000

def isValidSegmentRange (t : TSegmentRangeItem) : Bool :=
  !(t.dwSegmentIDStart < VNET_MIN_SEGMENT_ID || t.dwSegmentIDStart > VNET_MAX_MAP_SEGMENT_ID ||
    t.dwSegmentIDEnd < VNET_MIN_SEGMENT_ID || t.dwSegmentIDEnd > VNET_MAX_MAP_SEGMENT_ID ||
    t.dwSegmentIDStart > t.dwSegmentIDEnd)

theorem isValidSegmentRange_iff (t : TSegmentRangeItem) : isValidSegmentRange t = true ↔
    1 ≤ t.dwSegmentIDStart.toNat ∧ t.dwSegmentIDStart.toNat ≤ t.dwSegmentIDEnd.toNat ∧
      t.dwSegmentIDEnd.toNat ≤ 16000000 := by
  simp only [isValidSegmentRange, VNET_MIN_SEGMENT_ID, VNET_MAX_MAP_SEGMENT_ID, Bool.not_eq_true',
    Bool.or_eq_false_iff, decide_eq_false_iff_not, gt_iff_lt, UInt32.lt_iff_toNat_lt,
    UInt32.reduceToNat]
  omega

end SegmentRange

namespace StatusPool

open Bounds Intervals Transition

section Definitions

inductive IdStatus
  | unusable | usable | used
deriving Repr, DecidableEq

/-- The sizes of a pool: its vector, and the first and the last id that are looked at for an
allocation. -/
structure Pool where
  size : ℕ
  minMapId : ℕ
  maxMapId : ℕ

def VLAN_POOL_SIZE : ℕ := 4096
def VNET_MIN_MAP_VLAN_ID : ℕ := 2
def VNET_MAX_MAP_VLAN_ID : ℕ := 4094

def SEGMENT_POOL_SIZE : ℕ := 16000000
def VNET_MIN_MAP_SEGMENT_ID : ℕ := 1
def VNET_MAX_MAP_SEGMENT_ID : ℕ := 16000000

def vlanPool : Pool := ⟨VLAN_POOL_SIZE, VNET_MIN_MAP_VLAN_ID, VNET_MAX_MAP_VLAN_ID⟩

def segmentPool : Pool := ⟨SEGMENT_POOL_SIZE, VNET_MIN_MAP_SEGMENT_ID, VNET_MAX_MAP_SEGMENT_ID⟩

/-- A write to the vector; there is no result outside it. -/
def mark (status : IdStatus) (vec : Array IdStatus) (i : ℕ) : Option (Array IdStatus) :=
  if i < vec.size then some (vec.setIfInBounds i status) else none

def markAll (status : IdStatus) (vec : Array IdStatus) (ids : List ℕ) : Option (Array IdStatus) :=
  ids.foldlM (mark status) vec

variable {R : Type} [Bounds R] (pool : Pool)

def ids (r : R) : List ℕ := List.range' (lo r) (hi r + 1 - lo r)

/-- `Init`, from the ranges and the ids that the table says are allocated. -/
def Pool.init (ranges : List R) (allocated : List ℕ) : Option (Array IdStatus) :=
  (ranges.foldlM (fun vec r => markAll .usable vec (ids r))
    (Array.replicate pool.size .unusable)).bind fun vec => markAll .used vec allocated

/-- The search from an id on; a read outside the vector has no result. -/
def search (vec : Array IdStatus) : ℕ → ℕ → Option (Option ℕ)
  | _, 0 => some none
  | i, count + 1 =>
      match vec[i]? with
      | none => none
      | some .usable => some (some i)
      | some _ => search vec (i + 1) count

/-- The allocation of an id that is not mapped yet: the id, if there is one, and the vector. -/
def Pool.alloc (vec : Array IdStatus) : Option (Option ℕ × Array IdStatus) :=
  (search vec pool.minMapId (pool.maxMapId + 1 - pool.minMapId)).map fun found =>
    (found, found.elim vec fun i => vec.setIfInBounds i .used)

/-- An id of the ranges that is not allocated. -/
def Free (ranges : List R) (allocated : List ℕ) (n : ℕ) : Prop :=
  Covers ranges n ∧ n ∉ allocated

/-- Nothing is read or written outside the vector, and the least free id is given out, if any. -/
def Pool.Serves (ranges : List R) (allocated : List ℕ) : Prop :=
  ∃ vec found next, pool.init ranges allocated = some vec ∧ pool.alloc vec = some (found, next) ∧
    ∀ n, found = some n ↔ IsLeast {n | Free ranges allocated n} n

/-- The vector says which ids are free. -/
structure Pool.Represents (vec : Array IdStatus) (ranges : List R) (allocated : List ℕ) : Prop where
  size : vec.size = pool.size
  usable : ∀ n, vec[n]? = some .usable ↔ Free ranges allocated n

end Definitions

section Marks

variable {status : IdStatus} {vec next : Array IdStatus} {i n : ℕ} {list : List ℕ}

theorem mark_inside (inside : i < vec.size) :
    mark status vec i = some (vec.setIfInBounds i status) :=
  if_pos inside

theorem markAll_cons :
    markAll status vec (i :: list) = (mark status vec i).bind fun vec => markAll status vec list :=
  rfl

theorem markAll_inside (inside : ∀ i ∈ list, i < vec.size) :
    ∃ next, markAll status vec list = some next ∧ next.size = vec.size ∧
      ∀ n, next[n]? = if n ∈ list then some status else vec[n]? := by
  induction list generalizing vec with
  | nil => exact ⟨vec, rfl, rfl, fun n => by rw [if_neg List.not_mem_nil]⟩
  | cons i rest ih =>
      have first := inside i List.mem_cons_self
      have size : (vec.setIfInBounds i status).size = vec.size := Array.size_setIfInBounds
      have later : ∀ j ∈ rest, j < (vec.setIfInBounds i status).size := fun j mem =>
        size.symm ▸ inside j (List.mem_cons_of_mem i mem)
      obtain ⟨next, marked, same, read⟩ := ih later
      refine ⟨next, ?_, same.trans size, fun n => ?_⟩
      · rw [markAll_cons, mark_inside first]
        exact marked
      · rw [read, Array.getElem?_setIfInBounds]
        by_cases here : n ∈ rest
        · rw [if_pos here, if_pos (List.mem_cons_of_mem i here)]
        · by_cases eq : i = n
          · subst eq
            rw [if_neg here, if_pos rfl, if_pos first, if_pos List.mem_cons_self]
          · have outside : n ∉ i :: rest := by
              simp only [List.mem_cons, not_or]
              exact ⟨fun same => eq same.symm, here⟩
            rw [if_neg here, if_neg eq, if_neg outside]

theorem markAll_some (marked : markAll status vec list = some next) :
    next.size = vec.size ∧ ∀ i ∈ list, i < vec.size := by
  induction list generalizing vec with
  | nil =>
      obtain rfl := Option.some.inj marked
      exact ⟨rfl, fun i mem => absurd mem List.not_mem_nil⟩
  | cons i rest ih =>
      rw [markAll_cons, mark] at marked
      split at marked
      · next first =>
        obtain ⟨same, inside⟩ := ih marked
        rw [Array.size_setIfInBounds] at same inside
        refine ⟨same, fun j mem => ?_⟩
        rcases List.mem_cons.mp mem with rfl | mem
        · exact first
        · exact inside j mem
      · cases marked

end Marks

section Init

variable {R : Type} [Bounds R] {pool : Pool} {ranges : List R} {allocated : List ℕ}
  {vec next : Array IdStatus}

theorem mem_ids {r : R} {n : ℕ} : n ∈ ids r ↔ Contains r n := by
  rw [ids, List.mem_range'_1, Contains]
  omega

theorem mem_flatMap_ids {n : ℕ} : n ∈ ranges.flatMap ids ↔ Covers ranges n := by
  simp only [List.mem_flatMap, mem_ids, Covers]

theorem markRanges_eq (vec : Array IdStatus) :
    ranges.foldlM (fun vec r => markAll .usable vec (ids r)) vec =
      markAll .usable vec (ranges.flatMap ids) := by
  induction ranges generalizing vec with
  | nil => rfl
  | cons r rest ih =>
      have parts : markAll .usable vec (ids r ++ rest.flatMap ids) =
          (markAll .usable vec (ids r)).bind fun vec => markAll .usable vec (rest.flatMap ids) :=
        List.foldlM_append
      rw [List.foldlM_cons, List.flatMap_cons, parts]
      exact congrArg _ (funext ih)

theorem init_eq : pool.init ranges allocated =
    (markAll .usable (Array.replicate pool.size .unusable) (ranges.flatMap ids)).bind fun vec =>
      markAll .used vec allocated := by
  rw [Pool.init, markRanges_eq]

theorem init_inside (ranged : ∀ n, Covers ranges n → n < pool.size)
    (inside : ∀ n ∈ allocated, n < pool.size) :
    ∃ vec, pool.init ranges allocated = some vec ∧ pool.Represents vec ranges allocated := by
  have blank : (Array.replicate pool.size IdStatus.unusable).size = pool.size :=
    Array.size_replicate
  have inRanges : ∀ n ∈ ranges.flatMap ids,
      n < (Array.replicate pool.size IdStatus.unusable).size := fun n mem =>
    blank.symm ▸ ranged n (mem_flatMap_ids.mp mem)
  obtain ⟨usable, marked, sizeU, readU⟩ :
    ∃ next, markAll .usable _ _ = some next ∧ _ := markAll_inside inRanges
  have inAllocated : ∀ n ∈ allocated, n < usable.size := fun n mem =>
    (sizeU.trans blank).symm ▸ inside n mem
  obtain ⟨vec, taken, size, read⟩ :
    ∃ next, markAll .used _ _ = some next ∧ _ := markAll_inside inAllocated
  refine ⟨vec, ?_, size.trans (sizeU.trans blank), fun n => ?_⟩
  · rw [init_eq, marked]
    exact taken
  · have never : (Array.replicate pool.size IdStatus.unusable)[n]? ≠ some .usable := by
      rw [Array.getElem?_replicate]
      split <;> simp
    rw [read, readU, Free, ← mem_flatMap_ids]
    by_cases used : n ∈ allocated
    · simp [used]
    · by_cases covered : n ∈ ranges.flatMap ids <;> simp [used, covered, never]

theorem inside_of_init (built : pool.init ranges allocated = some vec) :
    (∀ n, Covers ranges n → n < pool.size) ∧ ∀ n ∈ allocated, n < pool.size := by
  rw [init_eq] at built
  obtain ⟨usable, marked, taken⟩ := Option.bind_eq_some_iff.mp built
  obtain ⟨size, ranged⟩ := markAll_some marked
  have inside := (markAll_some taken).2
  rw [Array.size_replicate] at size ranged
  exact ⟨fun n covered => ranged n (mem_flatMap_ids.mpr covered), fun n mem => size ▸ inside n mem⟩

end Init

section Search

variable {vec : Array IdStatus} {i count n : ℕ}

theorem search_found (vec : Array IdStatus) (i count n : ℕ) :
    search vec i count = some (some n) ↔
      IsLeast {n | i ≤ n ∧ n < i + count ∧ vec[n]? = some .usable} n := by
  induction count generalizing i with
  | zero =>
      rw [search]
      constructor
      · intro found
        cases found
      · rintro ⟨⟨low, high, -⟩, -⟩
        omega
  | succ count ih =>
      rw [search]
      have later (notHere : vec[i]? ≠ some .usable) (m : ℕ) :
          (i + 1 ≤ m ∧ m < i + 1 + count ∧ vec[m]? = some .usable) ↔
            i ≤ m ∧ m < i + (count + 1) ∧ vec[m]? = some .usable := by
        constructor
        · rintro ⟨low, high, usable⟩
          exact ⟨by omega, by omega, usable⟩
        · rintro ⟨low, high, usable⟩
          have apart : m ≠ i := fun same => notHere (same ▸ usable)
          exact ⟨by omega, by omega, usable⟩
      split
      · next outside =>
        constructor
        · intro found
          cases found
        · rintro ⟨⟨low, -, usable⟩, -⟩
          have small := Array.getElem?_eq_none_iff.mp outside
          have large := (Array.getElem?_eq_some_iff.mp usable).1
          omega
      · next here =>
        constructor
        · intro found
          obtain rfl := Option.some.inj (Option.some.inj found)
          exact ⟨⟨Nat.le_refl _, by omega, here⟩, fun m usable => usable.1⟩
        · rintro ⟨⟨low, -, -⟩, least⟩
          have first : n ≤ i := least ⟨Nat.le_refl _, by omega, here⟩
          rw [Nat.le_antisymm first low]
      · next status other here =>
        have notHere : vec[i]? ≠ some .usable := by
          rw [here]
          exact fun same => other (Option.some.inj same)
        rw [ih]
        simp only [later notHere]

theorem search_nothing (vec : Array IdStatus) (i count : ℕ) :
    search vec i count = some none ↔
      (∀ n, i ≤ n → n < i + count → vec[n]? ≠ some .usable) ∧
        (count = 0 ∨ i + count ≤ vec.size) := by
  induction count generalizing i with
  | zero =>
      rw [search]
      simp only [Nat.add_zero, true_or, and_true, true_iff]
      omega
  | succ count ih =>
      rw [search]
      split
      · next outside =>
        have small := Array.getElem?_eq_none_iff.mp outside
        constructor
        · intro found
          cases found
        · rintro ⟨-, zero | inside⟩ <;> omega
      · next here =>
        constructor
        · intro found
          cases found
        · rintro ⟨nothing, -⟩
          exact absurd here (nothing i (Nat.le_refl _) (by omega))
      · next status other here =>
        have bound := (Array.getElem?_eq_some_iff.mp here).1
        rw [ih]
        constructor
        · rintro ⟨nothing, inside⟩
          refine ⟨fun n low high => ?_, .inr (by omega)⟩
          by_cases eq : n = i
          · rw [eq, here]
            exact fun same => other (Option.some.inj same)
          · exact nothing n (by omega) (by omega)
        · rintro ⟨nothing, inside⟩
          exact ⟨fun n low high => nothing n (by omega) (by omega), by omega⟩

end Search

section Serving

variable {R : Type} [Bounds R] {pool : Pool} {ranges : List R} {allocated : List ℕ}
  {vec next : Array IdStatus}

theorem alloc_found {n : ℕ} (represents : pool.Represents vec ranges allocated) :
    (∃ next, pool.alloc vec = some (some n, next)) ↔
      IsLeast {n | pool.minMapId ≤ n ∧ n ≤ pool.maxMapId ∧ Free ranges allocated n} n := by
  have same : {n | pool.minMapId ≤ n ∧ n ≤ pool.maxMapId ∧ Free ranges allocated n} =
      {n | pool.minMapId ≤ n ∧ n < pool.minMapId + (pool.maxMapId + 1 - pool.minMapId) ∧
        vec[n]? = some .usable} := by
    ext m
    simp only [Set.mem_ofPred_eq, represents.usable]
    constructor
    · rintro ⟨low, high, free⟩
      exact ⟨low, by omega, free⟩
    · rintro ⟨low, high, free⟩
      exact ⟨low, by omega, free⟩
  rw [same, ← search_found, Pool.alloc]
  simp [Option.map_eq_some_iff]

/-- Every allocation leaves a vector that has the id among the allocated ones. -/
theorem represents_alloc {n : ℕ} (represents : pool.Represents vec ranges allocated)
    (given : pool.alloc vec = some (some n, next)) :
    pool.Represents next ranges (n :: allocated) := by
  rw [Pool.alloc, Option.map_eq_some_iff] at given
  obtain ⟨found, -, eq⟩ := given
  obtain ⟨rfl, rfl⟩ := Prod.mk.inj eq
  refine ⟨?_, fun m => ?_⟩
  · rw [← represents.size]
    exact Array.size_setIfInBounds
  · have usable := represents.usable m
    change (vec.setIfInBounds n .used)[m]? = some .usable ↔ _
    rw [Array.getElem?_setIfInBounds, Free, List.mem_cons, not_or]
    by_cases eq : n = m
    · subst eq
      split
      · split <;> simp
      · simp_all
    · rw [if_neg eq, usable, Free]
      have apart : m ≠ n := fun same => eq same.symm
      simp [apart]

def AllocStep (pool : Pool) (before : Array IdStatus) (n : ℕ) (after : Array IdStatus) : Prop :=
  pool.alloc before = some (some n, after)

/-- However many ids were given out since `Init`, the vector still says which are free. -/
theorem represents_run {given : List ℕ} (represents : pool.Represents vec ranges allocated)
    (run : Run (AllocStep pool) vec given next) :
    pool.Represents next ranges (given.reverse ++ allocated) := by
  refine run.induct
    (P := fun given next => pool.Represents next ranges (given.reverse ++ allocated))
    represents ?_
  intro given last n next _ before step
  rw [List.reverse_append]
  exact represents_alloc before step

theorem exists_least {P : ℕ → Prop} (any : ∃ n, P n) : ∃ m, IsLeast {n | P n} m := by
  classical
  exact ⟨Nat.find any, Nat.find_spec any, fun n holds => Nat.find_min' any holds⟩

/-- When a pool of any sizes works. -/
theorem serves_iff (bounded : ∀ n, Covers ranges n → n ≤ pool.maxMapId)
    (ordered : pool.minMapId ≤ pool.maxMapId) :
    pool.Serves ranges allocated ↔
      ((∀ n, Covers ranges n → n < pool.size) ∧ ∀ n ∈ allocated, n < pool.size) ∧
        (∀ n, Free ranges allocated n → pool.minMapId ≤ n) ∧
        (pool.maxMapId < pool.size ∨ ∃ n, Free ranges allocated n) := by
  constructor
  · rintro ⟨vec, found, next, built, given, least⟩
    have inside := inside_of_init built
    obtain ⟨vec', built', represents⟩ := init_inside inside.1 inside.2
    obtain rfl := Option.some.inj (built.symm.trans built')
    refine ⟨inside, fun n free => ?_, ?_⟩
    · obtain ⟨m, first⟩ := exists_least ⟨n, free⟩
      have result := (least m).mpr first
      subst result
      have where_ := (alloc_found represents).mp ⟨next, given⟩
      exact Nat.le_trans where_.1.1 (first.2 free)
    · cases found with
      | some n => exact .inr ⟨n, ((least n).mp rfl).1⟩
      | none =>
          refine .inl ?_
          rw [Pool.alloc, Option.map_eq_some_iff] at given
          obtain ⟨result, looked, eq⟩ := given
          obtain ⟨rfl, -⟩ := Prod.mk.inj eq
          have size := ((search_nothing _ _ _).mp looked).2
          rw [represents.size] at size
          omega
  · rintro ⟨inside, low, enough⟩
    obtain ⟨vec, built, represents⟩ := init_inside inside.1 inside.2
    have same : {n | pool.minMapId ≤ n ∧ n ≤ pool.maxMapId ∧ Free ranges allocated n} =
        {n | Free ranges allocated n} := by
      ext n
      constructor
      · exact fun free => free.2.2
      · exact fun free => ⟨low n free, bounded n free.1, free⟩
    by_cases any : ∃ n, Free ranges allocated n
    · obtain ⟨m, first⟩ := exists_least any
      obtain ⟨next, given⟩ := (alloc_found represents).mpr (same ▸ first)
      refine ⟨vec, some m, next, built, given, fun n => ?_⟩
      constructor
      · intro eq
        exact Option.some.inj eq ▸ first
      · exact fun least => congrArg some (first.unique least)
    · have fits : pool.maxMapId < pool.size := enough.resolve_right any
      have looked : search vec pool.minMapId (pool.maxMapId + 1 - pool.minMapId) = some none := by
        refine (search_nothing _ _ _).mpr ⟨fun n _ _ usable => ?_, .inr ?_⟩
        · exact any ⟨n, (represents.usable n).mp usable⟩
        · rw [represents.size]
          omega
      refine ⟨vec, none, vec, built, by rw [Pool.alloc, looked]; rfl, fun n => ?_⟩
      constructor
      · intro eq
        cases eq
      · exact fun least => absurd ⟨n, least.1⟩ any

end Serving

section Pools

/-- Ids that a table of allocated ones may hold. -/
def Within (low high : ℕ) (allocated : List ℕ) : Prop := ∀ n ∈ allocated, low ≤ n ∧ n ≤ high

theorem covers_vlan {ranges : List TVlanRangeItem}
    (valid : ∀ r ∈ ranges, VlanRange.isValidVlanRange r = true) {n : ℕ}
    (covered : Covers ranges n) :
    1 ≤ n ∧ n ≤ 4094 := by
  obtain ⟨r, mem, low, high⟩ := covered
  have bounds := (VlanRange.isValidVlanRange_iff r).mp (valid r mem)
  exact ⟨Nat.le_trans bounds.1 low, Nat.le_trans high bounds.2.2⟩

theorem covers_segment {ranges : List TSegmentRangeItem}
    (valid : ∀ r ∈ ranges, SegmentRange.isValidSegmentRange r = true) {n : ℕ}
    (covered : Covers ranges n) : 1 ≤ n ∧ n ≤ 16000000 := by
  obtain ⟨r, mem, low, high⟩ := covered
  have bounds := (SegmentRange.isValidSegmentRange_iff r).mp (valid r mem)
  exact ⟨Nat.le_trans bounds.1 low, Nat.le_trans high bounds.2.2⟩

theorem vlanPool_serves_iff {ranges : List TVlanRangeItem} {allocated : List ℕ}
    (valid : ∀ r ∈ ranges, VlanRange.isValidVlanRange r = true)
    (within : Within 1 4094 allocated) :
    vlanPool.Serves ranges allocated ↔ ¬ Free ranges allocated 1 := by
  have bounded (n : ℕ) (covered : Covers ranges n) := covers_vlan valid covered
  have serves : vlanPool.Serves ranges allocated ↔ _ :=
    serves_iff (fun n covered => (bounded n covered).2) (by decide)
  rw [serves]
  constructor
  · rintro ⟨-, low, -⟩ first
    exact absurd (low 1 first) (by decide)
  · intro taken
    refine ⟨⟨fun n covered => ?_, fun n mem => ?_⟩, fun n free => ?_, .inl (by decide)⟩
    · exact Nat.lt_of_le_of_lt (bounded n covered).2 (show 4094 < 4096 by omega)
    · exact Nat.lt_of_le_of_lt (within n mem).2 (show 4094 < 4096 by omega)
    · have apart : n ≠ 1 := fun same => taken (same ▸ free)
      have low := (bounded n free.1).1
      change 2 ≤ n
      omega

theorem segmentPool_serves_iff {ranges : List TSegmentRangeItem} {allocated : List ℕ}
    (valid : ∀ r ∈ ranges, SegmentRange.isValidSegmentRange r = true)
    (within : Within 1 16000000 allocated) :
    segmentPool.Serves ranges allocated ↔
      (¬ Covers ranges 16000000 ∧ 16000000 ∉ allocated) ∧ ∃ n, Free ranges allocated n := by
  have bounded (n : ℕ) (covered : Covers ranges n) := covers_segment valid covered
  have serves : segmentPool.Serves ranges allocated ↔ _ :=
    serves_iff (fun n covered => (bounded n covered).2) (show 1 ≤ 16000000 by omega)
  rw [serves]
  have size : segmentPool.size = 16000000 := rfl
  constructor
  · rintro ⟨⟨ranged, inside⟩, -, fits | any⟩
    · exact absurd fits (Nat.lt_irrefl 16000000)
    · exact ⟨⟨fun last => Nat.lt_irrefl _ (ranged _ last),
        fun last => Nat.lt_irrefl _ (inside _ last)⟩, any⟩
  · rintro ⟨⟨unranged, unallocated⟩, any⟩
    refine ⟨⟨fun n covered => ?_, fun n mem => ?_⟩, fun n free => (bounded n free.1).1, .inr any⟩
    · have apart : n ≠ 16000000 := fun same => unranged (same ▸ covered)
      have high := (bounded n covered).2
      omega
    · have apart : n ≠ 16000000 := fun same => unallocated (same ▸ mem)
      have high := (within n mem).2
      omega

/-- The VLAN pool works where id 1 is not free; the segment pool where its last id is neither in the
ranges nor allocated and some id is free. -/
theorem pools_serve_iff (ranges : List TVlanRangeItem) (segments : List TSegmentRangeItem)
    (allocated : List ℕ) :
    ((∀ r ∈ ranges, VlanRange.isValidVlanRange r = true) → Within 1 4094 allocated →
      (vlanPool.Serves ranges allocated ↔ ¬ Free ranges allocated 1)) ∧
    ((∀ r ∈ segments, SegmentRange.isValidSegmentRange r = true) → Within 1 16000000 allocated →
      (segmentPool.Serves segments allocated ↔
        (¬ Covers segments 16000000 ∧ 16000000 ∉ allocated) ∧ ∃ n, Free segments allocated n)) :=
  ⟨vlanPool_serves_iff, segmentPool_serves_iff⟩

theorem pools_serve_small :
    vlanPool.Serves [(⟨2, 3⟩ : TVlanRangeItem)] [2] ∧
      segmentPool.Serves [(⟨1, 2⟩ : TSegmentRangeItem)] [1] := by
  constructor
  · apply ((pools_serve_iff [⟨2, 3⟩] [] [2]).1 (by decide) (by simp [Within])).mpr
    simp [Free, Contains, lo, hi]
  · apply ((pools_serve_iff [] [⟨1, 2⟩] [1]).2 (by decide) (by simp [Within])).mpr
    exact ⟨by simp [Contains, lo, hi], 2, by simp [Free, Contains, lo, hi]⟩

/-- A valid range that ends at the last id is marked outside the vector; a valid range of id 1 gives
no id. -/
theorem pools_fail :
    SegmentRange.isValidSegmentRange ⟨16000000, 16000000⟩ = true ∧
      segmentPool.init [(⟨16000000, 16000000⟩ : TSegmentRangeItem)] [] = none ∧
      VlanRange.isValidVlanRange ⟨1, 1⟩ = true ∧
        ¬ vlanPool.Serves [(⟨1, 1⟩ : TVlanRangeItem)] [] := by
  have last : Covers [(⟨16000000, 16000000⟩ : TSegmentRangeItem)] 16000000 := by
    simp [Contains, lo, hi]
  refine ⟨by decide, ?_, by decide, ?_⟩
  · cases built : segmentPool.init [(⟨16000000, 16000000⟩ : TSegmentRangeItem)] [] with
    | none => rfl
    | some vec => exact absurd ((inside_of_init built).1 _ last) (Nat.lt_irrefl _)
  · rw [vlanPool_serves_iff (by decide) (by simp [Within])]
    simp [Free, Contains, lo, hi]

end Pools

end StatusPool

end Tecs
