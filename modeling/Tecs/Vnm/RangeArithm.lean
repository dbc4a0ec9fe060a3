import Tecs.Library.Intervals

set_option autoImplicit false

namespace Tecs

structure TRange where
  dwStart : UInt32
  dwEnd : UInt32
deriving Repr, DecidableEq

instance : Bounds TRange := ⟨fun r => r.dwStart.toNat, fun r => r.dwEnd.toNat⟩

instance : ExactBounds TRange where
  ext := by
    rintro ⟨start, stop⟩ ⟨start', stop'⟩ starts ends
    have sameStart : start = start' := UInt32.toNat_inj.mp starts
    have sameStop : stop = stop' := UInt32.toNat_inj.mp ends
    rw [sameStart, sameStop]

/-- The ranges put in, and what the last merge or deletion made of them. -/
structure RangeArithmetic where
  vecRange : List TRange
  vecMergedRange : List TRange
deriving Repr, DecidableEq

namespace RangeArithmetic

open Bounds Intervals

def compareRange (tRange1 tRange2 : TRange) : Bool :=
  tRange1.dwEnd ≤ tRange2.dwStart || tRange1.dwStart ≤ tRange2.dwStart

/-- The sort may run off the vector, since the comparison holds of two ranges that start together.
It does not where it has few enough ranges to insert them one by one, or no two that start together,
or all but the last one in order. -/
def SortsSafely (rs : List TRange) : Prop :=
  rs.length ≤ 16 ∨ (rs.map TRange.dwStart).Nodup ∨
    rs.dropLast.Pairwise fun a b => a.dwStart < b.dwStart

instance (rs : List TRange) : Decidable (SortsSafely rs) :=
  inferInstanceAs (Decidable (_ ∨ _ ∨ _))

/-- The sort of the standard library. Ranges that start together come out in either order, and
nothing is known of what it leaves where it is not safe. -/
structure StdSort where
  sort : List TRange → List TRange
  perm : ∀ rs, SortsSafely rs → (∀ r ∈ rs, r.dwStart ≤ r.dwEnd) → (sort rs).Perm rs
  ordered : ∀ rs, SortsSafely rs → (∀ r ∈ rs, r.dwStart ≤ r.dwEnd) →
    (sort rs).Pairwise fun a b => compareRange a b

def removeAll : RangeArithmetic := ⟨[], []⟩

def addRange (arith : RangeArithmetic) (tRange : TRange) : Int × RangeArithmetic :=
  if tRange.dwStart > tRange.dwEnd then (-1, arith)
  else (0, { arith with vecRange := arith.vecRange ++ [tRange] })

/-- The sums wrap: a range that ends at the largest number has its end plus one at zero. -/
def isAssociationRange (tRange1 tRange2 : TRange) : Bool :=
  !(tRange1.dwEnd + 1 < tRange2.dwStart || tRange1.dwStart > tRange2.dwEnd + 1)

def merge (tMergedRange tRange : TRange) : TRange where
  dwStart := if tMergedRange.dwStart > tRange.dwStart then tRange.dwStart
    else tMergedRange.dwStart
  dwEnd := if tMergedRange.dwEnd < tRange.dwEnd then tRange.dwEnd else tMergedRange.dwEnd

def mergeLoop (tMergedRange : TRange) : List TRange → List TRange
  | [] => [tMergedRange]
  | tRange :: rest =>
      if isAssociationRange tMergedRange tRange then mergeLoop (merge tMergedRange tRange) rest
      else tMergedRange :: mergeLoop tRange rest

def mergeSortColl (std : StdSort) (arith : RangeArithmetic) : Int × RangeArithmetic :=
  if arith.vecRange.isEmpty then (-1, arith)
  else
    match std.sort arith.vecRange with
    | [] => (-1, arith)
    | tRange :: rest =>
        (0, { vecRange := tRange :: rest,
              vecMergedRange := arith.vecMergedRange ++ mergeLoop tRange rest })

/-- The first range that contains the request is taken out, shortened or split. -/
def deleteLoop (tRange : TRange) : List TRange → Option (List TRange)
  | [] => none
  | r :: rest =>
      if r.dwStart ≤ tRange.dwStart ∧ r.dwEnd ≥ tRange.dwEnd then
        if r.dwStart = tRange.dwStart ∧ r.dwEnd = tRange.dwEnd then some rest
        else if r.dwStart = tRange.dwStart then some
          ({ r with dwStart := tRange.dwEnd + 1 } :: rest)
        else if r.dwEnd = tRange.dwEnd then some ({ r with dwEnd := tRange.dwStart - 1 } :: rest)
        else some (⟨r.dwStart, tRange.dwStart - 1⟩ ::
          { r with dwStart := tRange.dwEnd + 1 } :: rest)
      else (deleteLoop tRange rest).map (r :: ·)

def deleteRange (arith : RangeArithmetic) (tRange : TRange) : Int × RangeArithmetic :=
  if tRange.dwStart > tRange.dwEnd then (-1, arith)
  else if arith.vecRange.isEmpty then (0, arith)
  else
    match deleteLoop tRange arith.vecRange with
    | none => (-1, { arith with vecMergedRange := arith.vecRange })
    | some merged => (0, { arith with vecMergedRange := merged })

def insertByStart (rs : List TRange) : List TRange :=
  rs.insertionSort fun a b => a.dwStart ≤ b.dwStart

theorem ordered_insertByStart (rs : List TRange) :
    (insertByStart rs).Pairwise fun a b => compareRange a b := by
  have : Std.Total fun a b : TRange => a.dwStart ≤ b.dwStart :=
    ⟨fun a b => UInt32.le_total a.dwStart b.dwStart⟩
  have : IsTrans TRange fun a b => a.dwStart ≤ b.dwStart := ⟨fun _ _ _ => UInt32.le_trans⟩
  refine (List.pairwise_insertionSort _ rs).imp fun {a b} le => ?_
  rw [compareRange, decide_eq_true le, Bool.or_true]

/-- An insertion sort by the starts is such a sort. -/
def StdSort.byStart : StdSort where
  sort := insertByStart
  perm rs _ _ := List.perm_insertionSort _ rs
  ordered rs _ _ := ordered_insertByStart rs

/-- A sort that takes what lies behind the vector for a part of it, where it runs off. -/
def StdSort.behind (memory : List TRange) : StdSort where
  sort rs :=
    if SortsSafely rs then insertByStart rs else (insertByStart (rs ++ memory)).take rs.length
  perm rs safe _ := by
    rw [if_pos safe]
    exact List.perm_insertionSort _ rs
  ordered rs safe _ := by
    rw [if_pos safe]
    exact ordered_insertByStart rs

/-- The starts are in order and no range is crossed. -/
structure Sorted (rs : List TRange) : Prop where
  proper : ∀ r ∈ rs, lo r ≤ hi r
  ordered : rs.Pairwise fun a b => lo a ≤ lo b

/-- The ranges of a sorted list that end at the largest number are met by no wrapped sum that
differs from the true one. -/
def Unwrapped (before : List TRange) : List TRange → Prop
  | [] => True
  | r :: after =>
      (hi r = 4294967295 → (∀ s ∈ after, lo s = 0) ∧
        ((∀ s ∈ before, Before s r) ∨ ∀ n < lo r, Covers before n)) ∧
      Unwrapped (before ++ [r]) after

/-- A range that ends at the largest number starts above the others, or together with them at
zero, and either leaves a gap to each of them or has everything below it covered by them. -/
def TopFits (rs : List TRange) : Prop :=
  ∀ r others, rs.Perm (r :: others) → hi r = 4294967295 →
    (∀ s ∈ others, lo s < lo r ∨ (lo s = 0 ∧ lo r = 0)) ∧
    ((∀ s ∈ others, Before s r) ∨ ∀ n < lo r, Covers others n)

theorem lo_eq (r : TRange) : lo r = r.dwStart.toNat := rfl

theorem hi_eq (r : TRange) : hi r = r.dwEnd.toNat := rfl

theorem hi_le (r : TRange) : hi r ≤ 4294967295 := by
  have bound := r.dwEnd.toNat_lt
  rw [hi_eq]
  omega

theorem sorted_cons {r : TRange} {rs : List TRange} :
    Sorted (r :: rs) ↔ lo r ≤ hi r ∧ (∀ s ∈ rs, lo r ≤ lo s) ∧ Sorted rs := by
  constructor
  · intro sorted
    have ordered := List.pairwise_cons.mp sorted.ordered
    exact ⟨sorted.proper r (by simp), ordered.1,
      ⟨fun s mem => sorted.proper s (by simp [mem]), ordered.2⟩⟩
  · rintro ⟨proper, ordered, rest⟩
    refine ⟨?_, List.pairwise_cons.mpr ⟨ordered, rest.ordered⟩⟩
    intro s mem
    cases List.mem_cons.mp mem with
    | inl same => exact same ▸ proper
    | inr mem => exact rest.proper s mem

theorem sort_sorted (std : StdSort) {rs : List TRange} (safe : SortsSafely rs)
    (proper : ∀ r ∈ rs, lo r ≤ hi r) : (std.sort rs).Perm rs ∧ Sorted (std.sort rs) := by
  have uncrossed : ∀ r ∈ rs, r.dwStart ≤ r.dwEnd := fun r mem =>
    UInt32.le_iff_toNat_le.mpr (proper r mem)
  have same := std.perm rs safe uncrossed
  have valid : ∀ r ∈ std.sort rs, lo r ≤ hi r := fun r mem => proper r (same.mem_iff.mp mem)
  refine ⟨same, valid, ?_⟩
  refine (std.ordered rs safe uncrossed).imp_of_mem ?_
  intro a b memA _ le
  have properA := valid a memA
  simp only [compareRange, Bool.or_eq_true, decide_eq_true_eq, UInt32.le_iff_toNat_le] at le
  simp only [lo_eq, hi_eq] at properA ⊢
  omega

/-- The test is the true one except at the largest number. -/
theorem isAssociationRange_iff {a b : TRange} (le : lo a ≤ lo b) (proper : lo b ≤ hi b) :
    isAssociationRange a b = true ↔
      ¬ Before a b ∧ (hi a = 4294967295 → lo b = 0) ∧ (hi b = 4294967295 → lo a = 0) := by
  have boundA := a.dwEnd.toNat_lt
  have boundB := b.dwEnd.toNat_lt
  simp only [isAssociationRange, Before, lo_eq, hi_eq, Bool.not_eq_true', Bool.or_eq_false_iff,
    decide_eq_false_iff_not, UInt32.lt_iff_toNat_lt, UInt32.toNat_add, gt_iff_lt] at le proper ⊢
  simp only [UInt32.toNat_one]
  omega

theorem lo_merge {a b : TRange} (le : lo a ≤ lo b) : lo (merge a b) = lo a := by
  simp only [lo_eq, merge, gt_iff_lt, UInt32.lt_iff_toNat_lt] at le ⊢
  rw [if_neg (by omega)]

theorem hi_merge (a b : TRange) : hi (merge a b) = max (hi a) (hi b) := by
  simp only [hi_eq, merge, UInt32.lt_iff_toNat_lt]
  by_cases shorter : a.dwEnd.toNat < b.dwEnd.toNat
  · rw [if_pos shorter]
    omega
  · rw [if_neg shorter]
    omega

theorem contains_merge {a b : TRange} (le : lo a ≤ lo b) (touch : ¬ Before a b)
    (n : ℕ) : Contains (merge a b) n ↔ Contains a n ∨ Contains b n := by
  simp only [Contains, lo_merge le, hi_merge, Before] at touch ⊢
  omega

theorem sorted_merge {a b : TRange} {rest : List TRange} (sorted : Sorted (a :: b :: rest)) :
    Sorted (merge a b :: rest) := by
  simp only [sorted_cons, List.forall_mem_cons] at sorted
  obtain ⟨proper, ⟨le, ordered⟩, properB, -, tail⟩ := sorted
  refine sorted_cons.mpr ⟨?_, ?_, tail⟩
  · rw [lo_merge le, hi_merge]
    omega
  · rw [lo_merge le]
    exact ordered

/-- Whatever the tests answer, the loop covers what the list covered. -/
theorem covers_mergeLoop (rest : List TRange) : ∀ {r : TRange}, Sorted (r :: rest) →
    ∀ n, Covers (mergeLoop r rest) n ↔ Covers (r :: rest) n := by
  induction rest with
  | nil =>
      intro r _ n
      rfl
  | cons s rest ih =>
      intro r sorted n
      have parts := sorted
      simp only [sorted_cons, List.forall_mem_cons] at parts
      obtain ⟨proper, ⟨le, -⟩, properS, -, -⟩ := parts
      rw [mergeLoop]
      split
      · rename_i joined
        rw [ih (sorted_merge sorted), covers_cons, covers_cons, covers_cons,
          contains_merge le ((isAssociationRange_iff le properS).mp joined).1, or_assoc]
      · rw [covers_cons, ih (sorted_cons.mp sorted).2.2, covers_cons r]

theorem mergeLoop_head (rest : List TRange) : ∀ {r : TRange}, Sorted (r :: rest) →
    ∃ first ∈ mergeLoop r rest, lo first = lo r := by
  induction rest with
  | nil =>
      intro r _
      exact ⟨r, by simp [mergeLoop], rfl⟩
  | cons s rest ih =>
      intro r sorted
      rw [mergeLoop]
      split
      · have ⟨first, mem, starts⟩ := ih (sorted_merge sorted)
        have le := (sorted_cons.mp sorted).2.1 s (by simp)
        exact ⟨first, mem, starts.trans (lo_merge le)⟩
      · exact ⟨r, by simp, rfl⟩

theorem lo_le_mergeLoop (rest : List TRange) : ∀ {r : TRange}, Sorted (r :: rest) →
    ∀ s ∈ mergeLoop r rest, lo r ≤ lo s := by
  induction rest with
  | nil =>
      intro r _ s mem
      exact Nat.le_of_eq (congrArg lo (List.mem_singleton.mp mem).symm)
  | cons next rest ih =>
      intro r sorted s mem
      have le := (sorted_cons.mp sorted).2.1 next (by simp)
      rw [mergeLoop] at mem
      split at mem
      · have low := ih (sorted_merge sorted) s mem
        rwa [lo_merge le] at low
      · cases List.mem_cons.mp mem with
        | inl same => exact Nat.le_of_eq (congrArg lo same.symm)
        | inr mem => exact Nat.le_trans le (ih (sorted_cons.mp sorted).2.2 s mem)

theorem unwrapped_congr (rest : List TRange) : ∀ {before before' : List TRange},
    (∀ n, Covers before n ↔ Covers before' n) →
    (∀ r : TRange, (∀ s ∈ before, Before s r) ↔ ∀ s ∈ before', Before s r) →
    (Unwrapped before rest ↔ Unwrapped before' rest) := by
  induction rest with
  | nil =>
      intro before before' _ _
      rfl
  | cons r rest ih =>
      intro before before' covers ends
      have further : Unwrapped (before ++ [r]) rest ↔ Unwrapped (before' ++ [r]) rest :=
        ih (fun n => by rw [covers_append, covers_append, covers n])
          (fun s => by simp only [List.forall_mem_append, ends s])
      simp only [Unwrapped, covers, ends, further]

/-- A range with a gap after it changes nothing for the ranges beyond the gap. -/
theorem unwrapped_cons (rest : List TRange) : ∀ {m : TRange} {before : List TRange},
    (∀ s ∈ before, Before m s) → (∀ s ∈ rest, Before m s) →
    (Unwrapped (m :: before) rest ↔ Unwrapped before rest) := by
  induction rest with
  | nil =>
      intro m before _ _
      rfl
  | cons r rest ih =>
      intro m before earlier later
      have next := later r (by simp)
      have further : Unwrapped (m :: (before ++ [r])) rest ↔ Unwrapped (before ++ [r]) rest :=
        ih (List.forall_mem_append.mpr ⟨earlier, by simpa using next⟩)
          (fun s mem => later s (by simp [mem]))
      have gap : ¬ Covers before (hi m + 1) := by
        rintro ⟨s, mem, low, -⟩
        have apart := earlier s mem
        simp only [Before] at apart
        omega
      have low : hi m + 1 < lo r := next
      have open₁ : ¬ ∀ n < lo r, Covers before n := fun covered => gap (covered _ low)
      have open₂ : ¬ ∀ n < lo r, Covers (m :: before) n := by
        intro covered
        cases (covers_cons m before _).mp (covered _ low) with
        | inl inside => exact absurd inside.2 (by omega)
        | inr inside => exact gap inside
      simp only [Unwrapped, List.cons_append, further, open₁, open₂, or_false,
        List.forall_mem_cons, next, true_and]

theorem unwrapped_merge {r s : TRange} (rest : List TRange) (le : lo r ≤ lo s)
    (touch : ¬ Before r s) (first : hi r = 4294967295 → lo s = 0)
    (second : hi s = 4294967295 → lo r = 0) :
    Unwrapped [] (merge r s :: rest) ↔ Unwrapped [] (r :: s :: rest) := by
  have covers : ∀ n, Covers [merge r s] n ↔ Covers [r, s] n := by
    intro n
    simp only [covers_cons, contains_merge le touch, not_covers_nil, or_false]
  have ends : ∀ t : TRange, (∀ x ∈ [merge r s], Before x t) ↔ ∀ x ∈ [r, s], Before x t := by
    intro t
    simp only [List.forall_mem_cons, Before, hi_merge]
    simp only [List.not_mem_nil, false_implies, implies_true, and_true]
    omega
  have further := unwrapped_congr rest covers ends
  have below : hi s = 4294967295 → ∀ n < lo s, Covers [r] n := by
    intro top n small
    have zero := second top
    refine ⟨r, by simp, ?_⟩
    simp only [Contains, Before] at touch ⊢
    omega
  have highest : hi (merge r s) = 4294967295 ↔ hi r = 4294967295 ∨ hi s = 4294967295 := by
    have boundR := hi_le r
    have boundS := hi_le s
    rw [hi_merge]
    omega
  simp only [Unwrapped, List.nil_append, List.singleton_append, further, highest,
    List.forall_mem_cons]
  simp only [List.not_mem_nil, false_implies, implies_true, true_or, and_true]
  constructor
  · rintro ⟨tail, later⟩
    exact ⟨fun top => ⟨first top, tail (.inl top)⟩,
      fun top => ⟨tail (.inr top), .inr (below top)⟩, later⟩
  · rintro ⟨fromR, fromS, later⟩
    refine ⟨fun top => ?_, later⟩
    cases top with
    | inl top => exact (fromR top).2
    | inr top => exact (fromS top).1

/-- The loop leaves gaps exactly where no wrapped sum misleads it. -/
theorem mergeLoop_canonical_iff (rest : List TRange) : ∀ {r : TRange}, Sorted (r :: rest) →
    (Canonical (mergeLoop r rest) ↔ Unwrapped [] (r :: rest)) := by
  induction rest with
  | nil =>
      intro r sorted
      simp [mergeLoop, canonical_singleton, Unwrapped, sorted.proper r]
  | cons s rest ih =>
      intro r sorted
      have parts := sorted
      simp only [sorted_cons, List.forall_mem_cons] at parts
      obtain ⟨proper, ⟨le, -⟩, properS, ordered, -⟩ := parts
      have tail := (sorted_cons.mp sorted).2.2
      have test := isAssociationRange_iff le properS
      by_cases apart : Before r s
      · -- a true gap: the sum does not wrap, and the loop starts anew behind it
        have beyond : ∀ x ∈ mergeLoop s rest, Before r x :=
          fun x mem => Nat.lt_of_lt_of_le apart (lo_le_mergeLoop rest tail x mem)
        have lower : hi r ≠ 4294967295 := by
          have bound := hi_le s
          simp only [Before] at apart
          omega
        have later : ∀ x ∈ s :: rest, Before r x := by
          intro x mem
          cases List.mem_cons.mp mem with
          | inl same => exact same ▸ apart
          | inr mem => exact Nat.lt_of_lt_of_le apart (ordered x mem)
        have failed : ¬ isAssociationRange r s = true := fun joined => (test.mp joined).1 apart
        have start : Unwrapped [] (r :: s :: rest) ↔ Unwrapped [r] (s :: rest) :=
          and_iff_right fun top => absurd top lower
        rw [mergeLoop, if_neg failed, canonical_cons, ih tail, start,
          unwrapped_cons (s :: rest) (by simp) later]
        simp only [proper, true_and]
        exact and_iff_right beyond
      · by_cases joined : isAssociationRange r s = true
        · obtain ⟨_, first, second⟩ := test.mp joined
          rw [mergeLoop, if_pos joined, ih (sorted_merge sorted),
            unwrapped_merge rest le apart first second]
        · -- the ranges touch, but a wrapped sum keeps them apart
          rw [mergeLoop, if_neg joined]
          have neither : ¬ (hi r = 4294967295 → lo s = 0) ∨ ¬ (hi s = 4294967295 → lo r = 0) := by
            by_contra both
            rw [not_or, not_not, not_not] at both
            exact joined (test.mpr ⟨apart, both⟩)
          constructor
          · intro canonical
            obtain ⟨head, mem, starts⟩ := mergeLoop_head rest tail
            have gap := (canonical_cons.mp canonical).2.1 head mem
            rw [Before, starts] at gap
            exact absurd gap apart
          · rintro ⟨fromR, fromS, -⟩
            exfalso
            cases neither with
            | inl wrong => exact wrong fun top => (fromR top).1 s (by simp)
            | inr wrong =>
                apply wrong
                intro top
                cases (fromS top).2 with
                | inl gap => exact absurd (gap r (by simp)) apart
                | inr covered =>
                    by_contra positive
                    obtain ⟨x, mem, low, _⟩ := covered 0 (by omega)
                    rw [List.nil_append, List.mem_singleton] at mem
                    rw [mem] at low
                    omega

theorem unwrapped_iff (rest : List TRange) : ∀ {before : List TRange},
    Unwrapped before rest ↔ ∀ earlier r later, rest = earlier ++ r :: later →
      hi r = 4294967295 → (∀ s ∈ later, lo s = 0) ∧
        ((∀ s ∈ before ++ earlier, Before s r) ∨ ∀ n < lo r, Covers (before ++ earlier) n) := by
  induction rest with
  | nil => simp [Unwrapped]
  | cons x rest ih =>
      intro before
      rw [Unwrapped, ih]
      constructor
      · rintro ⟨head, tail⟩ earlier r later split top
        cases earlier with
        | nil =>
            obtain ⟨rfl, rfl⟩ := List.cons.inj split
            simpa using head top
        | cons y earlier =>
            obtain ⟨rfl, cut⟩ := List.cons.inj split
            simpa using tail earlier r later cut top
      · intro all
        refine ⟨fun top => by simpa using all [] x rest rfl top, ?_⟩
        intro earlier r later split top
        simpa using all (x :: earlier) r later (by rw [split, List.cons_append]) top

/-- Where the ranges but one have gaps, none that starts above zero starts together with one before
it and has everything below it covered. -/
theorem no_tie {stored sorted earlier later : List TRange} {r s x : TRange} (apart : Apart stored)
    (order : Sorted sorted) (same : sorted.Perm (r :: stored))
    (cut : sorted = earlier ++ x :: later)
    (mem : s ∈ earlier) (tie : lo s = lo x) (positive : 0 < lo x) :
    ¬ ((∀ s ∈ [] ++ earlier, Before s x) ∨ ∀ n < lo x, Covers ([] ++ earlier) n) := by
  subst cut
  have properS := order.proper s (by simp [mem])
  have properX := order.proper x (by simp)
  rintro (gaps | covered)
  · have gap := gaps s mem
    simp only [Before] at gap
    omega
  · obtain ⟨z, memZ, lowZ, highZ⟩ := covered (lo x - 1) (by omega)
    have different : s ≠ z := by
      rintro rfl
      omega
    have pair : [s, z].Subperm (earlier ++ later) := by
      refine List.subperm_of_subset (by simp [different]) ?_
      intro y found
      simp only [List.mem_cons, List.not_mem_nil, or_false] at found
      cases found with
      | inl here => simp [here, mem]
      | inr here => simp [here, List.nil_append] at memZ ⊢; simp [memZ]
    have three : [x, s, z].Subperm (r :: stored) :=
      ((List.subperm_cons x).mpr pair).trans (List.perm_middle.symm.trans same).subperm
    have gaps := apart.exists_separate three
    simp only [Separate, Before] at gaps
    omega

/-- The order in which the sort leaves ranges that start together makes no difference. -/
theorem unwrapped_iff_topFits {stored sorted : List TRange} {r : TRange} (apart : Apart stored)
    (order : Sorted sorted) (same : sorted.Perm (r :: stored)) :
    Unwrapped [] sorted ↔ TopFits sorted := by
  have parts : ∀ {earlier x later}, sorted = earlier ++ x :: later →
      (∀ s ∈ earlier, lo s ≤ lo x) ∧ ∀ s ∈ later, lo x ≤ lo s := by
    rintro earlier x later rfl
    have ordered := order.ordered
    rw [List.pairwise_append, List.pairwise_cons] at ordered
    exact ⟨fun s mem => ordered.2.2 s mem x (by simp), ordered.2.1.1⟩
  rw [unwrapped_iff]
  constructor
  · intro unwrapped x others split top
    have ⟨earlier, later, cut⟩ := List.append_of_mem (split.mem_iff.mpr List.mem_cons_self)
    have rest : (earlier ++ later).Perm others :=
      (List.perm_middle.symm.trans (cut ▸ split)).cons_inv
    have ⟨low, high⟩ := parts cut
    have ⟨zero, below⟩ := unwrapped earlier x later cut top
    constructor
    · intro s mem
      cases List.mem_append.mp (rest.mem_iff.mpr mem) with
      | inr mem =>
          have le := high s mem
          have start := zero s mem
          omega
      | inl mem =>
          by_contra wrong
          exact no_tie apart order same cut mem (by have le := low s mem; omega)
            (by have le := low s mem; omega) below
    · by_cases start : lo x = 0
      · right
        intro n small
        omega
      · have none : ∀ s ∉ earlier, s ∉ others := by
          intro s out mem
          cases List.mem_append.mp (rest.mem_iff.mpr mem) with
          | inl mem => exact out mem
          | inr mem =>
              have le := high s mem
              have zeroS := zero s mem
              omega
        cases below with
        | inl gaps => exact .inl fun s mem => gaps s (by by_contra out; exact none s out mem)
        | inr covered =>
            right
            intro n small
            rw [← covers_perm rest, covers_append]
            exact .inl (covered n small)
  · intro fits earlier x later cut top
    have ⟨_, high⟩ := parts cut
    have ⟨starts, below⟩ := fits x (earlier ++ later) (cut ▸ List.perm_middle) top
    constructor
    · intro s mem
      have le := high s mem
      cases starts s (by simp [mem]) with
      | inl less => omega
      | inr zero => exact zero.1
    · cases below with
      | inl gaps => exact .inl fun s mem => gaps s (by simp [List.nil_append] at mem; simp [mem])
      | inr covered =>
          right
          intro n small
          cases (covers_append _ _ _).mp (covered n small) with
          | inl found => exact found
          | inr found =>
              have ⟨s, mem, contains⟩ := found
              have le := high s mem
              exact absurd contains.1 (by omega)

theorem topFits_perm {rs ss : List TRange} (same : rs.Perm ss) : TopFits rs ↔ TopFits ss :=
  ⟨fun fits r others split => fits r others (same.trans split),
    fun fits r others split => fits r others (same.symm.trans split)⟩

theorem addRange_proper {r : TRange} (proper : lo r ≤ hi r) (arith : RangeArithmetic) :
    arith.addRange r = (0, { arith with vecRange := arith.vecRange ++ [r] }) := by
  rw [addRange, if_neg]
  rw [gt_iff_lt, UInt32.lt_iff_toNat_lt, Nat.not_lt]
  exact proper

theorem addRange_all (rs : List TRange) : ∀ arith : RangeArithmetic, (∀ r ∈ rs, lo r ≤ hi r) →
    rs.foldl (fun arith r => (arith.addRange r).2) arith =
      { arith with vecRange := arith.vecRange ++ rs } := by
  induction rs with
  | nil =>
      intro arith _
      simp
  | cons r rest ih =>
      intro arith proper
      rw [List.foldl_cons, addRange_proper (proper r (by simp)),
        ih _ fun s mem => proper s (by simp [mem])]
      simp

/-- A merge of ranges put in since the last clearing. -/
theorem mergeSortColl_spec (std : StdSort) {rs : List TRange} (nonempty : rs ≠ [])
    (safe : SortsSafely rs) (proper : ∀ r ∈ rs, lo r ≤ hi r) :
    ∃ first rest, (first :: rest).Perm rs ∧ Sorted (first :: rest) ∧
      mergeSortColl std ⟨rs, []⟩ = (0, ⟨first :: rest, mergeLoop first rest⟩) := by
  have ⟨same, sorted⟩ := sort_sorted std safe proper
  cases order : std.sort rs with
  | nil =>
      rw [order] at same
      exact absurd same.symm.eq_nil nonempty
  | cons first rest =>
      refine ⟨first, rest, order ▸ same, order ▸ sorted, ?_⟩
      rw [mergeSortColl, if_neg (by simpa using nonempty), order]
      rfl

theorem mergeLoop_ne_nil {r : TRange} {rest : List TRange} (sorted : Sorted (r :: rest)) :
    mergeLoop r rest ≠ [] := by
  intro none
  have ⟨_, mem, _⟩ := mergeLoop_head rest sorted
  rw [none] at mem
  exact absurd mem List.not_mem_nil

/-- What a deletion leaves of the range that contains the request. -/
def remains (r tRange : TRange) : List TRange :=
  if r.dwStart = tRange.dwStart ∧ r.dwEnd = tRange.dwEnd then []
  else if r.dwStart = tRange.dwStart then [⟨tRange.dwEnd + 1, r.dwEnd⟩]
  else if r.dwEnd = tRange.dwEnd then [⟨r.dwStart, tRange.dwStart - 1⟩]
  else [⟨r.dwStart, tRange.dwStart - 1⟩, ⟨tRange.dwEnd + 1, r.dwEnd⟩]

theorem deleteLoop_cons (tRange r : TRange) (rest : List TRange) :
    deleteLoop tRange (r :: rest) =
      if lo r ≤ lo tRange ∧ hi tRange ≤ hi r then some (remains r tRange ++ rest)
      else (deleteLoop tRange rest).map (r :: ·) := by
  have test : (r.dwStart ≤ tRange.dwStart ∧ r.dwEnd ≥ tRange.dwEnd) ↔
      (lo r ≤ lo tRange ∧ hi tRange ≤ hi r) := Iff.rfl
  rw [deleteLoop, remains]
  simp only [test]
  split_ifs <;> rfl

theorem deleteLoop_none {tRange : TRange} {rs : List TRange} :
    deleteLoop tRange rs = none ↔ ∀ r ∈ rs, ¬ (lo r ≤ lo tRange ∧ hi tRange ≤ hi r) := by
  induction rs with
  | nil => simp [deleteLoop]
  | cons r rest ih =>
      rw [deleteLoop_cons, List.forall_mem_cons, ← ih]
      by_cases contains : lo r ≤ lo tRange ∧ hi tRange ≤ hi r
      · rw [if_pos contains]
        exact iff_of_false (by simp) fun free => free.1 contains
      · rw [if_neg contains, Option.map_eq_none_iff]
        exact (and_iff_right contains).symm

theorem deleteLoop_some {tRange : TRange} {rs merged : List TRange}
    (found : deleteLoop tRange rs = some merged) :
    ∃ earlier r later, rs = earlier ++ r :: later ∧ lo r ≤ lo tRange ∧ hi tRange ≤ hi r ∧
      merged = earlier ++ (remains r tRange ++ later) := by
  induction rs generalizing merged with
  | nil => simp [deleteLoop] at found
  | cons r rest ih =>
      rw [deleteLoop_cons] at found
      by_cases contains : lo r ≤ lo tRange ∧ hi tRange ≤ hi r
      · rw [if_pos contains] at found
        exact ⟨[], r, rest, rfl, contains.1, contains.2, (Option.some.inj found).symm⟩
      · rw [if_neg contains, Option.map_eq_some_iff] at found
        have ⟨inner, found, made⟩ := found
        have ⟨earlier, x, later, split, low, high, shape⟩ := ih found
        refine ⟨r :: earlier, x, later, by rw [split, List.cons_append], low, high, ?_⟩
        rw [← made, shape, List.cons_append]

theorem deleteRange_proper {tRange : TRange} {rs : List TRange} (proper : lo tRange ≤ hi tRange)
    (filled : rs.isEmpty = false) :
    deleteRange ⟨rs, []⟩ tRange =
      match deleteLoop tRange rs with
      | none => (-1, ⟨rs, rs⟩)
      | some merged => (0, ⟨rs, merged⟩) := by
  have crossed : ¬ tRange.dwStart > tRange.dwEnd :=
    fun less => absurd (UInt32.lt_iff_toNat_lt.mp less) (Nat.not_lt.mpr proper)
  rw [deleteRange, if_neg crossed, if_neg (by simp [filled])]

section Remains

variable {r tRange : TRange} (low : lo r ≤ lo tRange) (high : hi tRange ≤ hi r)

include low high

/-- The parts below and above the request; no sum or difference taken for them wraps. -/
theorem remains_eq : ∃ below above, remains r tRange =
      (if lo r < lo tRange then [below] else []) ++ (if hi tRange < hi r then [above] else []) ∧
    (lo r < lo tRange → lo below = lo r ∧ hi below + 1 = lo tRange) ∧
    (hi tRange < hi r → lo above = hi tRange + 1 ∧ hi above = hi r) := by
  refine ⟨⟨r.dwStart, tRange.dwStart - 1⟩, ⟨tRange.dwEnd + 1, r.dwEnd⟩, ?_, ?_, ?_⟩
  · have starts : r.dwStart = tRange.dwStart ↔ ¬ lo r < lo tRange := by
      rw [← UInt32.toNat_inj, ← lo_eq, ← lo_eq]
      omega
    have ends : r.dwEnd = tRange.dwEnd ↔ ¬ hi tRange < hi r := by
      rw [← UInt32.toNat_inj, ← hi_eq, ← hi_eq]
      omega
    rw [remains]
    simp only [starts, ends]
    split_ifs <;> first | rfl | omega
  · intro less
    have diff : (tRange.dwStart - 1).toNat = tRange.dwStart.toNat - 1 :=
      UInt32.toNat_sub_of_le _ _
        (UInt32.le_iff_toNat_le.mpr (Nat.lt_of_le_of_lt (Nat.zero_le _) less))
    refine ⟨rfl, ?_⟩
    rw [hi_eq, diff, ← lo_eq]
    omega
  · intro less
    have bound := hi_le r
    refine ⟨?_, rfl⟩
    rw [lo_eq, UInt32.toNat_add, UInt32.toNat_one, ← hi_eq]
    omega

variable (proper : lo tRange ≤ hi tRange)

include proper

theorem covers_remains (n : ℕ) :
    Covers (remains r tRange) n ↔ Contains r n ∧ ¬ Contains tRange n := by
  have ⟨below, above, shape, first, second⟩ := remains_eq low high
  have part : ∀ (c : Prop) [Decidable c] (s : TRange),
      Covers (if c then [s] else []) n ↔ c ∧ Contains s n := by
    intro c _ s
    by_cases holds : c <;> simp [holds]
  rw [shape, covers_append, part, part]
  simp only [Contains]
  omega

theorem remains_inside : ∀ s ∈ remains r tRange, lo r ≤ lo s ∧ hi s ≤ hi r := by
  have ⟨below, above, shape, first, second⟩ := remains_eq low high
  intro s mem
  rw [shape, List.mem_append] at mem
  cases mem with
  | inl mem =>
      have ⟨less, same⟩ := List.mem_ite_nil_right.mp mem
      rw [List.mem_singleton.mp same]
      have ends := first less
      omega
  | inr mem =>
      have ⟨less, same⟩ := List.mem_ite_nil_right.mp mem
      rw [List.mem_singleton.mp same]
      have ends := second less
      omega

theorem canonical_remains : Canonical (remains r tRange) := by
  have ⟨below, above, shape, first, second⟩ := remains_eq low high
  rw [shape]
  split_ifs with atStart atEnd atEnd
  · have endsBelow := first atStart
    have endsAbove := second atEnd
    refine canonical_cons.mpr ⟨by omega, ?_, canonical_singleton.mpr (by omega)⟩
    intro s mem
    rw [List.mem_singleton.mp mem, Before]
    omega
  · have ends := first atStart
    exact canonical_singleton.mpr (by omega)
  · have ends := second atEnd
    exact canonical_singleton.mpr (by omega)
  · exact canonical_nil

end Remains

end RangeArithmetic

end Tecs
