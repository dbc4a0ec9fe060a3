import Tecs.Vnm.RangeArithm

set_option autoImplicit false

namespace Tecs

/-- What the VLAN, segment, MAC and IPv4 range classes differ in: the test of a request, and how
their items are written as ranges. The test is to refuse crossed ends. -/
structure RangeKind (Item : Type) where
  isValidRange : Item → Bool
  toRange : Item → TRange
  ofRange : TRange → Item
  proper : ∀ item, isValidRange item = true → (toRange item).dwStart ≤ (toRange item).dwEnd
  toRange_ofRange : ∀ r, toRange (ofRange r) = r

namespace RangeKind

open Bounds Intervals RangeArithmetic

variable {Item : Type}

/-- Every stored item is handed to a cleared range arithmetic. -/
def load (kind : RangeKind Item) (stored : List Item) : RangeArithmetic :=
  stored.foldl (fun arith item => (arith.addRange (kind.toRange item)).2) removeAll

/-- Called with rows of the database, which are taken as they are. -/
def addValidRange (stored : List Item) (item : Item) : Int × List Item := (0, stored ++ [item])

def addRange (kind : RangeKind Item) (std : StdSort) (stored : List Item) (item : Item) :
    Int × List Item :=
  if !kind.isValidRange item then (-1, stored)
  else if stored.isEmpty then (0, [item])
  else
    let pRangeArith := ((kind.load stored).addRange (kind.toRange item)).2
    let merged := (pRangeArith.mergeSortColl std).2.vecMergedRange
    if merged.isEmpty then (-1, stored) else (0, merged.map kind.ofRange)

def delRange (kind : RangeKind Item) (stored : List Item) (item : Item) : Int × List Item :=
  if !kind.isValidRange item then (-1, stored)
  else
    let result := (kind.load stored).deleteRange (kind.toRange item)
    if result.1 ≠ 0 then (-1, stored) else (0, result.2.vecMergedRange.map kind.ofRange)

/-- The list left by one call after the other on an empty collection. -/
def addAll (kind : RangeKind Item) (std : StdSort) (calls : List Item) : List Item :=
  calls.foldl (fun stored item => (kind.addRange std stored item).2) []

def ranges (kind : RangeKind Item) (stored : List Item) : List TRange := stored.map kind.toRange

/-- The list is in canonical form and covers what the accepted calls added, no more and no less. -/
structure Exact (kind : RangeKind Item) (stored calls : List Item) : Prop where
  canonical : Canonical (kind.ranges stored)
  covers : ∀ n, Covers (kind.ranges stored) n ↔
    ∃ item ∈ calls, kind.isValidRange item = true ∧ Contains (kind.toRange item) n

variable {kind : RangeKind Item}

theorem proper_toRange {item : Item} (valid : kind.isValidRange item = true) :
    lo (kind.toRange item) ≤ hi (kind.toRange item) :=
  UInt32.le_iff_toNat_le.mp (kind.proper item valid)

theorem ranges_ofRange (rs : List TRange) : kind.ranges (rs.map kind.ofRange) = rs := by
  simp [ranges, Function.comp_def, kind.toRange_ofRange]

theorem load_proper {stored : List Item} (proper : ∀ r ∈ kind.ranges stored, lo r ≤ hi r) :
    kind.load stored = ⟨kind.ranges stored, []⟩ := by
  have added := addRange_all (kind.ranges stored) removeAll proper
  rw [ranges, List.foldl_map] at added
  rw [load, added]
  simp [removeAll, ranges]

theorem addRange_rejected (std : StdSort) {stored : List Item} {item : Item}
    (invalid : ¬ kind.isValidRange item = true) : kind.addRange std stored item = (-1, stored) := by
  rw [addRange, if_pos (by simpa using invalid)]

/-- What an addition hands to the sort. -/
def gathered (kind : RangeKind Item) (stored : List Item) (item : Item) : List TRange :=
  kind.ranges stored ++ [kind.toRange item]

/-- An accepted call leaves one run of the merge loop over the sorted ranges. -/
theorem addRange_spec (std : StdSort) {stored : List Item} {item : Item}
    (valid : kind.isValidRange item = true) (safe : SortsSafely (kind.gathered stored item))
    (proper : ∀ r ∈ kind.ranges stored, lo r ≤ hi r) :
    ∃ first rest, (first :: rest).Perm (kind.toRange item :: kind.ranges stored) ∧
      Sorted (first :: rest) ∧ (kind.addRange std stored item).1 = 0 ∧
      kind.ranges (kind.addRange std stored item).2 = mergeLoop first rest := by
  have properItem := proper_toRange valid
  cases stored with
  | nil =>
      refine ⟨kind.toRange item, [], List.Perm.refl _, sorted_cons.mpr ?_, ?_, ?_⟩
      · exact ⟨properItem, by simp, by simp, List.Pairwise.nil⟩
      · simp [addRange, valid]
      · simp [addRange, valid, ranges, mergeLoop]
  | cons head tail =>
      have all : ∀ r ∈ kind.ranges (head :: tail) ++ [kind.toRange item], lo r ≤ hi r :=
        List.forall_mem_append.mpr ⟨proper, by simpa using properItem⟩
      rw [gathered] at safe
      obtain ⟨first, rest, same, sorted, run⟩ := mergeSortColl_spec std (by simp) safe all
      have made : kind.addRange std (head :: tail) item =
          (0, (mergeLoop first rest).map kind.ofRange) := by
        rw [addRange, load_proper proper, addRange_proper properItem]
        simp [valid, run, mergeLoop_ne_nil sorted]
      refine ⟨first, rest, same.trans (List.perm_append_singleton _ _), sorted, ?_, ?_⟩
      · rw [made]
      · rw [made, ranges_ofRange]

theorem addRange_items (std : StdSort) {stored : List Item} {item : Item} (nonempty : stored ≠ [])
    (done : (kind.addRange std stored item).1 = 0) :
    (kind.addRange std stored item).2 =
      (kind.ranges (kind.addRange std stored item).2).map kind.ofRange := by
  unfold addRange at done ⊢
  by_cases invalid : (!kind.isValidRange item) = true
  · rw [if_pos invalid] at done
    cases done
  have filled : ¬ stored.isEmpty = true := by simpa using nonempty
  rw [if_neg invalid, if_neg filled] at done ⊢
  by_cases none : ((((kind.load stored).addRange (kind.toRange item)).2).mergeSortColl
      std).2.vecMergedRange.isEmpty = true
  · simp only [none, if_true] at done
    cases done
  · simp only [none, Bool.false_eq_true, if_false, ranges_ofRange]

/-- Below the top an addition to a list with gaps leaves the canonical form of the union. -/
theorem addRange_canonical (std : StdSort) {stored : List Item} {item : Item}
    (apart : Apart (kind.ranges stored)) (safe : SortsSafely (kind.gathered stored item))
    (valid : kind.isValidRange item = true)
    (below : ∀ r ∈ kind.toRange item :: kind.ranges stored, hi r < 4294967295) :
    (kind.addRange std stored item).1 = 0 ∧
      Canonical (kind.ranges (kind.addRange std stored item).2) ∧
      ∀ n, Covers (kind.ranges (kind.addRange std stored item).2) n ↔
        Covers (kind.ranges stored) n ∨ Contains (kind.toRange item) n := by
  have ⟨first, rest, same, sorted, done, made⟩ := addRange_spec std valid safe apart.proper
  refine ⟨done, ?_, fun n => ?_⟩
  · rw [made, mergeLoop_canonical_iff rest sorted, unwrapped_iff_topFits apart sorted same,
      topFits_perm same]
    intro r others split top
    have bound := below r (split.mem_iff.mpr List.mem_cons_self)
    omega
  · rw [made, covers_mergeLoop rest sorted, covers_perm same, covers_cons, or_comm]

/-- A canonical list and one range more are in order but for the last. -/
theorem sortsSafely_of_canonical {stored : List Item} (canonical : Canonical (kind.ranges stored))
    (item : Item) : SortsSafely (kind.gathered stored item) := by
  refine .inr (.inr ?_)
  rw [gathered, List.dropLast_concat]
  refine canonical.before.imp_of_mem fun {a b} memA _ before => ?_
  have proper := canonical.proper a memA
  rw [UInt32.lt_iff_toNat_lt]
  simp only [Before, lo_eq, hi_eq] at proper before
  omega

/-- One call keeps the list exact just when no wrapped sum misleads the merge. -/
theorem Exact.add_iff (std : StdSort) {stored calls : List Item} (exact : kind.Exact stored calls)
    (item : Item) :
    kind.Exact (kind.addRange std stored item).2 (calls ++ [item]) ↔
      (kind.isValidRange item = true → TopFits (kind.toRange item :: kind.ranges stored)) := by
  by_cases valid : kind.isValidRange item = true
  · have ⟨first, rest, same, sorted, _, made⟩ := addRange_spec std valid
      (sortsSafely_of_canonical exact.canonical item) exact.canonical.proper
    have form : Canonical (mergeLoop first rest) ↔
        TopFits (kind.toRange item :: kind.ranges stored) := by
      rw [mergeLoop_canonical_iff rest sorted,
        unwrapped_iff_topFits exact.canonical.apart sorted same, topFits_perm same]
    constructor
    · intro kept _
      rw [← form, ← made]
      exact kept.canonical
    · intro fits
      refine ⟨made ▸ form.mpr (fits valid), fun n => ?_⟩
      rw [made, covers_mergeLoop rest sorted, covers_perm same, covers_cons, exact.covers]
      simp only [List.mem_append, List.mem_singleton, or_and_right, exists_or, exists_eq_left,
        valid, true_and]
      exact or_comm
  · rw [addRange_rejected std valid]
    refine iff_of_true ⟨exact.canonical, fun n => ?_⟩ fun accepted => absurd accepted valid
    rw [exact.covers]
    constructor
    · rintro ⟨x, mem, rest⟩
      exact ⟨x, by simp [mem], rest⟩
    · rintro ⟨x, mem, accepted, contains⟩
      cases List.mem_append.mp mem with
      | inl mem => exact ⟨x, mem, accepted, contains⟩
      | inr mem =>
          rw [List.mem_singleton.mp mem] at accepted
          exact absurd accepted valid

theorem addAll_append (std : StdSort) (calls : List Item) (item : Item) :
    kind.addAll std (calls ++ [item]) = (kind.addRange std (kind.addAll std calls) item).2 := by
  simp [addAll]

theorem exact_nil : kind.Exact [] [] :=
  ⟨canonical_nil, fun n => by simp [ranges]⟩

/-- The list is exact after every call of a run just when each accepted request fits at the top. -/
theorem exact_iff_topFits (std : StdSort) (calls : List Item) :
    (∀ earlier, earlier <+: calls → kind.Exact (kind.addAll std earlier) earlier) ↔
      ∀ earlier item, earlier ++ [item] <+: calls → kind.isValidRange item = true →
        TopFits (kind.toRange item :: kind.ranges (kind.addAll std earlier)) := by
  constructor
  · intro exact earlier item part
    have kept := exact _ part
    rw [addAll_append] at kept
    exact (Exact.add_iff std (exact earlier ((List.prefix_append _ _).trans part)) item).mp kept
  · intro fits earlier part
    induction earlier using List.reverseRecOn with
    | nil => exact exact_nil
    | append_singleton earlier item ih =>
        have before := ih ((List.prefix_append _ _).trans part)
        rw [addAll_append]
        exact (Exact.add_iff std before item).mpr (fits earlier item part)

/-- Ranges without a bound on the ends but their order. -/
def plain : RangeKind TRange where
  isValidRange r := r.dwStart ≤ r.dwEnd
  toRange r := r
  ofRange r := r
  proper _ valid := of_decide_eq_true valid
  toRange_ofRange _ := rfl

/-- The second range lies inside the first, whose end plus one is taken for zero. -/
theorem top_range_kept_apart : ¬ ∀ (std : StdSort) (calls : List TRange),
    (∀ r ∈ calls, r.dwStart ≤ r.dwEnd) → plain.Exact (plain.addAll std calls) calls := by
  intro exact
  have first := exact .byStart [⟨5, 4294967295⟩] (by decide)
  have both := exact .byStart [⟨5, 4294967295⟩, ⟨7, 10⟩] (by decide)
  have fits := (Exact.add_iff .byStart first ⟨7, 10⟩).mp both rfl
  have ends := fits ⟨5, 4294967295⟩ [⟨7, 10⟩] (List.Perm.swap _ _ _) rfl
  have start := ends.1 ⟨7, 10⟩ (by simp)
  revert start
  decide

theorem delRange_eq {stored : List Item} {item : Item} (valid : kind.isValidRange item = true)
    (proper : ∀ r ∈ kind.ranges stored, lo r ≤ hi r) (nonempty : stored ≠ []) :
    kind.delRange stored item =
      match deleteLoop (kind.toRange item) (kind.ranges stored) with
      | none => (-1, stored)
      | some merged => (0, merged.map kind.ofRange) := by
  have filled : (kind.ranges stored).isEmpty = false := by simpa [ranges] using nonempty
  have accepted : ¬ (!kind.isValidRange item) = true := by simp [valid]
  rw [delRange, if_neg accepted, load_proper proper,
    deleteRange_proper (proper_toRange valid) filled]
  cases deleteLoop (kind.toRange item) (kind.ranges stored) <;> rfl

theorem delRange_rejected {stored : List Item} {item : Item}
    (invalid : ¬ kind.isValidRange item = true) : kind.delRange stored item = (-1, stored) := by
  rw [delRange, if_pos (by simpa using invalid)]

theorem delRange_empty {item : Item} (valid : kind.isValidRange item = true) :
    kind.delRange [] item = (0, []) := by
  have proper := proper_toRange valid
  have crossed : ¬ (kind.toRange item).dwStart > (kind.toRange item).dwEnd :=
    fun less => absurd (UInt32.lt_iff_toNat_lt.mp less) (Nat.not_lt.mpr proper)
  simp [delRange, valid, load, removeAll, deleteRange, crossed]

/-- The deletion of a valid request succeeds just when a single stored range contains it. -/
theorem delRange_done_iff {stored : List Item} {item : Item} (valid : kind.isValidRange item = true)
    (proper : ∀ r ∈ kind.ranges stored, lo r ≤ hi r) (nonempty : stored ≠ []) :
    (kind.delRange stored item).1 = 0 ↔ ∃ r ∈ kind.ranges stored,
      lo r ≤ lo (kind.toRange item) ∧ hi (kind.toRange item) ≤ hi r := by
  rw [delRange_eq valid proper nonempty]
  cases found : deleteLoop (kind.toRange item) (kind.ranges stored) with
  | none =>
      have free := deleteLoop_none.mp found
      exact iff_of_false (by simp) fun ⟨r, mem, contains⟩ => free r mem contains
  | some merged =>
      have ⟨earlier, r, later, split, low, high, _⟩ := deleteLoop_some found
      exact iff_of_true rfl ⟨r, split ▸ by simp, low, high⟩

theorem delRange_unchanged {stored : List Item} {item : Item}
    (failed : (kind.delRange stored item).1 ≠ 0) : (kind.delRange stored item).2 = stored := by
  unfold delRange at failed ⊢
  split
  · rfl
  · rename_i accepted
    rw [if_neg accepted] at failed
    by_cases refused : ((kind.load stored).deleteRange (kind.toRange item)).1 ≠ 0
    · simp [refused]
    · simp [refused] at failed

/-- The one range that contained the request gives way to what the request leaves of it. -/
theorem delRange_spec {stored : List Item} {item : Item}
    (proper : ∀ r ∈ kind.ranges stored, lo r ≤ hi r) (nonempty : stored ≠ [])
    (done : (kind.delRange stored item).1 = 0) :
    ∃ earlier r later, kind.ranges stored = earlier ++ r :: later ∧
      lo r ≤ lo (kind.toRange item) ∧ hi (kind.toRange item) ≤ hi r ∧
      lo (kind.toRange item) ≤ hi (kind.toRange item) ∧
      kind.ranges (kind.delRange stored item).2 =
        earlier ++ (remains r (kind.toRange item) ++ later) := by
  by_cases valid : kind.isValidRange item = true
  · rw [delRange_eq valid proper nonempty] at done ⊢
    cases found : deleteLoop (kind.toRange item) (kind.ranges stored) with
    | none => simp [found] at done
    | some merged =>
        have ⟨earlier, r, later, split, low, high, shape⟩ := deleteLoop_some found
        refine ⟨earlier, r, later, split, low, high, proper_toRange valid, ?_⟩
        rw [ranges_ofRange, shape]
  · rw [delRange_rejected valid] at done
    simp at done

theorem proper_delRange {stored : List Item} {item : Item}
    (proper : ∀ r ∈ kind.ranges stored, lo r ≤ hi r) (nonempty : stored ≠ [])
    (done : (kind.delRange stored item).1 = 0) :
    ∀ r ∈ kind.ranges (kind.delRange stored item).2, lo r ≤ hi r := by
  have ⟨earlier, r, later, split, low, high, properItem, made⟩ := delRange_spec proper nonempty done
  rw [split] at proper
  rw [made]
  intro s mem
  simp only [List.mem_append] at mem
  rcases mem with mem | mem | mem
  · exact proper s (by simp [mem])
  · exact (canonical_remains low high properItem).proper s mem
  · exact proper s (by simp [mem])

theorem apart_delRange {stored : List Item} {item : Item} (apart : Apart (kind.ranges stored))
    (nonempty : stored ≠ []) (done : (kind.delRange stored item).1 = 0) :
    Apart (kind.ranges (kind.delRange stored item).2) := by
  have ⟨earlier, r, later, split, low, high, proper, made⟩ :=
    delRange_spec apart.proper nonempty done
  rw [made]
  exact (split ▸ apart).replace (canonical_remains low high proper).apart
    (remains_inside low high proper)

theorem covers_delRange {stored : List Item} {item : Item} (apart : Apart (kind.ranges stored))
    (nonempty : stored ≠ []) (done : (kind.delRange stored item).1 = 0) (n : ℕ) :
    Covers (kind.ranges (kind.delRange stored item).2) n ↔
      Covers (kind.ranges stored) n ∧ ¬ Contains (kind.toRange item) n := by
  have ⟨earlier, r, later, split, low, high, proper, made⟩ :=
    delRange_spec apart.proper nonempty done
  have rest : Contains r n → ¬ Covers (earlier ++ later) n := (split ▸ apart).not_covers_rest
  have inside : Contains (kind.toRange item) n → Contains r n :=
    fun contains => ⟨Nat.le_trans low contains.1, Nat.le_trans contains.2 high⟩
  simp only [covers_append] at rest
  rw [made, split]
  simp only [covers_append, covers_cons, covers_remains low high proper]
  tauto

end RangeKind

end Tecs
