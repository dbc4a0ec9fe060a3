import Tecs.Vnm.RangeWrites
import Tecs.Vnm.VlanRangeTable

set_option autoImplicit false

namespace Tecs.VlanPoolMgr

open Bounds Intervals RangeArithmetic

section Deletion

variable {rows read calculated : List TVlanRangeItem} {row request : TVlanRangeItem}
  (apart : Apart rows) (same : read.Perm rows) (apartC : Apart calculated)
  (proper : lo request ≤ hi request) (mem : row ∈ rows) (low : lo row ≤ lo request)
  (high : hi request ≤ hi row)
  (difference : ∀ n, Covers calculated n ↔ Covers rows n ∧ ¬ Contains request n)

include apart same apartC proper mem low high difference

/-- The new rows are what the deletion leaves of the one row. -/
theorem deletion_news {earlier later : List TRange}
    (split : VlanRange.kind.ranges read = earlier ++ VlanRange.kind.toRange row :: later)
    (made : VlanRange.kind.ranges calculated = earlier ++
      (remains (VlanRange.kind.toRange row) (VlanRange.kind.toRange request) ++ later)) :
    (calculated.filter (· ∉ read)).length =
      (remains (VlanRange.kind.toRange row) (VlanRange.kind.toRange request)).length := by
  have injective : ∀ s t, VlanRange.kind.toRange s = VlanRange.kind.toRange t → s = t := by
    rintro ⟨_, _⟩ ⟨_, _⟩ equal
    simpa [VlanRange.kind] using equal
  have lengths : (calculated.filter (· ∉ read)).length =
      ((VlanRange.kind.ranges calculated).filter (· ∉ VlanRange.kind.ranges read)).length := by
    rw [RangeKind.ranges, RangeKind.ranges, List.filter_map, List.length_map]
    congr 1
    refine List.filter_congr fun m _ => ?_
    simp only [Function.comp_apply, List.mem_map, decide_eq_decide, not_iff_not]
    constructor
    · intro stored
      exact ⟨m, stored, rfl⟩
    · rintro ⟨t, stored, equal⟩
      exact injective t m equal ▸ stored
  have gone : row ∉ calculated := by
    rw [mem_difference_iff apart apartC proper mem low high difference mem]
    exact fun other => other rfl
  have apartR : Apart (VlanRange.kind.ranges read) :=
    VlanRange.apart_ranges.mpr (apart.perm same.symm)
  have fresh : ∀ m ∈ remains (VlanRange.kind.toRange row) (VlanRange.kind.toRange request),
      m ∉ VlanRange.kind.ranges read := by
    intro m memM stored
    have place := @remains_inside (VlanRange.kind.toRange row) (VlanRange.kind.toRange request)
      low high proper m memM
    have properM := apartR.proper m stored
    have equal := apartR.eq_of_overlap stored (split ▸ by simp : VlanRange.kind.toRange row ∈ _)
      ⟨lo m, ⟨Nat.le_refl _, properM⟩, place.1, Nat.le_trans properM place.2⟩
    have inC : m ∈ VlanRange.kind.ranges calculated := by
      rw [made]
      simp [memM]
    rw [equal] at inC
    obtain ⟨t, memT, equalT⟩ := List.mem_map.mp inC
    exact gone (injective t row equalT ▸ memT)
  have kept : ∀ part : List TRange, (∀ m ∈ part, m ∈ VlanRange.kind.ranges read) →
      part.filter (· ∉ VlanRange.kind.ranges read) = [] := by
    intro part stored
    simp only [List.filter_eq_nil_iff, decide_eq_true_eq, not_not]
    exact stored
  rw [lengths, made, List.filter_append, List.filter_append,
    kept earlier fun m memM => by rw [split]; simp [memM],
    kept later fun m memM => by rw [split]; simp [memM],
    List.filter_eq_self.mpr fun m memM => by simpa using fresh m memM]
  simp

theorem deletion_plan_length {earlier later : List TRange}
    (split : VlanRange.kind.ranges read = earlier ++ VlanRange.kind.toRange row :: later)
    (made : VlanRange.kind.ranges calculated = earlier ++
      (remains (VlanRange.kind.toRange row) (VlanRange.kind.toRange request) ++ later)) :
    (Session.plan calculated read).length = delCount rows request := by
  have news := deletion_news apart same apartC proper mem low high difference split made
  have left := deletion_left apart same apartC proper mem low high difference
  have ⟨below, above, shape, _⟩ :=
    @remains_eq (VlanRange.kind.toRange row) (VlanRange.kind.toRange request) low high
  have found : rows.find? (fun row => lo row ≤ lo request ∧ hi request ≤ hi row) = some row := by
    cases search : rows.find? fun row => lo row ≤ lo request ∧ hi request ≤ hi row with
    | none =>
        have none := List.find?_eq_none.mp search row mem
        simp [low, high] at none
    | some other =>
        have place := List.find?_some search
        simp only [decide_eq_true_eq] at place
        have equal := apart.eq_of_overlap (List.mem_of_find?_eq_some search) mem
          ⟨lo request, ⟨place.1, Nat.le_trans proper place.2⟩, low, Nat.le_trans proper high⟩
        rw [equal]
  rw [Session.plan, List.length_append, List.length_map, List.length_map, news, left,
    shape, delCount,
    found]
  have parts : ∀ (c : Prop) [Decidable c] (s : TRange),
      (if c then [s] else []).length = if c then 1 else 0 := by
    intro c _ s
    by_cases holds : c <;> simp [holds]
  rw [List.length_append, parts, parts]
  rfl

end Deletion

inductive Call
  | add (answers : Answers) (cMsg : CVlanRangeMsg)
  | del (answers : Answers) (cMsg : CVlanRangeMsg)

namespace Call

def step (std : StdSort) (rows : List TVlanRangeItem) :
    Call → Option RangeRet × List TVlanRangeItem
  | .add answers cMsg => answered (addVlanRange std answers cMsg rows)
  | .del answers cMsg => delVlanRange answers cMsg rows

/-- The rows left by one call after the other, on a netplane without rows. -/
def run (std : StdSort) (calls : List Call) : List TVlanRangeItem :=
  calls.foldl (fun rows call => (call.step std rows).2) []

def fates : Call → List Bool
  | .add answers _ | .del answers _ => answers.fates

/-- The numbers that a call is to leave covered. -/
def target (covered : ℕ → Prop) : Call → ℕ → Prop
  | .add _ cMsg => fun n => covered n ∨ Contains cMsg.item n
  | .del _ cMsg => fun n => covered n ∧ ¬ Contains cMsg.item n

/-- How many statements a call has to write with, by the rows and what the calls reads. -/
def writeCount (rows : List TVlanRangeItem) : Call → ℕ
  | .add answers cMsg =>
      if cMsg.isValidRange = true ∧ isConflictWithShareNetAccessVlan answers cMsg = false ∧
          isConflictWithShareNetTrunkVlan answers cMsg = false ∧ answers.queryFails = false then
        addCount rows cMsg.item
      else 0
  | .del answers cMsg =>
      if cMsg.isValidRange = true ∧ answers.queryFails = false ∧ answers.allocNum = some 0 then
        delCount rows cMsg.item
      else 0

/-- The rows of an addition that comes to them can be sorted with its request. -/
def Sorts (rows : List TVlanRangeItem) : Call → Prop
  | .add answers cMsg =>
      cMsg.isValidRange = true → isConflictWithShareNetAccessVlan answers cMsg = false →
      isConflictWithShareNetTrunkVlan answers cMsg = false → answers.queryFails = false →
        SortsSafely (VlanRange.kind.gathered (answers.order rows) cMsg.item)
  | .del _ _ => True

/-- No write fails after another write of the call, and no `INSERT` of a deletion fails: only its
last write is no `INSERT`. -/
def WritesSafely (rows : List TVlanRangeItem) (call : Call) : Prop :=
  Steady call.fates (call.writeCount rows) ∧
    match call with
    | .add _ _ => True
    | .del answers cMsg => false ∉ answers.fates.take (writeCount rows (.del answers cMsg) - 1)

/-- What a call is to do to the rows: the canonical form after a success, and after a failure no
number lost or added that the request does not name, and no two rows that overlap; and it is to
answer. -/
structure Meets (call : Call) (rows : List TVlanRangeItem)
    (result : Option RangeRet × List TVlanRangeItem) : Prop where
  answers : result.1 ≠ none
  canonical : result.1 = some .operSuccess → ∃ form, form.Perm result.2 ∧ Canonical form
  exact : result.1 = some .operSuccess → ∀ n, Covers result.2 n ↔ call.target (Covers rows) n
  kept : result.1 ≠ some .operSuccess → ∀ n, Covers rows n → call.target (Covers rows) n →
    Covers result.2 n
  within : result.1 ≠ some .operSuccess → ∀ n, Covers result.2 n →
    Covers rows n ∨ call.target (Covers rows) n
  disjoint : result.1 ≠ some .operSuccess → result.2.Pairwise fun a b => ¬ Overlap a b

end Call

/-- The rows of a netplane have gaps between them and lie between the bounds of the procedure. -/
structure Neat (rows : List TVlanRangeItem) : Prop where
  apart : Apart rows
  valid : ∀ row ∈ rows, checkAddVlanRange row = true

theorem checkAddVlanRange_iff (row : TVlanRangeItem) :
    checkAddVlanRange row = true ↔ lo row ≤ hi row ∧ 2 ≤ lo row ∧ hi row ≤ 4094 := by
  simp only [checkAddVlanRange, Bool.and_eq_true, decide_eq_true_eq, UInt32.le_iff_toNat_le,
    ge_iff_le, and_assoc]
  rfl

theorem valid_of_covers {rows : List TVlanRangeItem} (apart : Apart rows)
    (bounded : ∀ n, Covers rows n → 2 ≤ n ∧ n ≤ 4094) :
    ∀ row ∈ rows, checkAddVlanRange row = true := by
  intro row mem
  have proper := apart.proper row mem
  have first := bounded (lo row) ⟨row, mem, Nat.le_refl _, proper⟩
  have last := bounded (hi row) ⟨row, mem, proper, Nat.le_refl _⟩
  exact (checkAddVlanRange_iff row).mpr ⟨proper, first.1, last.2⟩

theorem Neat.bounded {rows : List TVlanRangeItem} (neat : Neat rows) (n : ℕ)
    (covered : Covers rows n) :
    2 ≤ n ∧ n ≤ 4094 := by
  have ⟨row, mem, low, high⟩ := covered
  have ends := (checkAddVlanRange_iff row).mp (neat.valid row mem)
  omega

theorem not_overlap_of_apart {rows : List TVlanRangeItem} (apart : Apart rows) :
    rows.Pairwise fun a b => ¬ Overlap a b := by
  refine apart.apart.imp fun {a b} away => ?_
  rintro ⟨n, inA, inB⟩
  simp only [Separate, Before, Contains] at away inA inB
  omega

theorem isValidRange_iff (cMsg : CVlanRangeMsg) : cMsg.isValidRange = true ↔
    cMsg.nVlanStart ≤ cMsg.nVlanEnd ∧ 2 ≤ cMsg.nVlanStart ∧ cMsg.nVlanEnd ≤ 4094 := by
  simp only [CVlanRangeMsg.isValidRange, Bool.not_eq_true', Bool.or_eq_false_iff,
    decide_eq_false_iff_not]
  simp only [CVlanRangeMsg.VNETLIB_MIN_VLAN_ID, CVlanRangeMsg.VNETLIB_MAX_VLAN_ID]
  omega

theorem item_bounds {cMsg : CVlanRangeMsg} (valid : cMsg.isValidRange = true) :
    lo cMsg.item ≤ hi cMsg.item ∧ 2 ≤ lo cMsg.item ∧ hi cMsg.item ≤ 4094 := by
  have bounds := (isValidRange_iff cMsg).mp valid
  have start : lo cMsg.item = cMsg.nVlanStart.toNat := by
    change (UInt32.ofInt cMsg.nVlanStart).toNat = _
    simp [UInt32.ofInt]
    omega
  have stop : hi cMsg.item = cMsg.nVlanEnd.toNat := by
    change (UInt32.ofInt cMsg.nVlanEnd).toNat = _
    simp [UInt32.ofInt]
    omega
  omega

theorem item_valid {cMsg : CVlanRangeMsg} (valid : cMsg.isValidRange = true) :
    VlanRange.isValidVlanRange cMsg.item = true := by
  have bounds := item_bounds valid
  refine (VlanRange.isValidVlanRange_iff cMsg.item).mpr ?_
  change 1 ≤ lo cMsg.item ∧ lo cMsg.item ≤ hi cMsg.item ∧ hi cMsg.item ≤ 4094
  omega

theorem steady_of_le_one (fates : List Bool) {count : ℕ} (small : count ≤ 1) :
    Steady fates count := by
  cases fates with
  | nil => exact .inr (by simp)
  | cons fate fates =>
      cases fate with
      | false => exact .inl rfl
      | true =>
          right
          intro mem
          have first := List.mem_of_mem_take (List.take_subset_take_left (true :: fates) small mem)
          have ⟨k, inside, value⟩ := List.mem_take_iff_getElem.mp mem
          have zero : k = 0 := by omega
          subst zero
          simp at value

/-- What holds of the result of a call: it meets its purpose under a condition, and then the rows
stay neat. -/
def MeetsIf (call : Call) (rows : List TVlanRangeItem)
    (result : Option RangeRet × List TVlanRangeItem) (condition : Prop) : Prop :=
  (call.Meets rows result ↔ condition) ∧ (condition → Neat result.2)

def Answered (call : Call) (rows : List TVlanRangeItem)
    (result : Option RangeRet × List TVlanRangeItem) : Prop :=
  MeetsIf call rows result (call.WritesSafely rows)

theorem writesSafely_of_le_one {call : Call} {rows : List TVlanRangeItem}
    (small : call.writeCount rows ≤ 1) : call.WritesSafely rows := by
  refine ⟨steady_of_le_one call.fates small, ?_⟩
  cases call with
  | add answers cMsg => trivial
  | del answers cMsg =>
      have none : Call.writeCount rows (.del answers cMsg) - 1 = 0 := by omega
      simp [none]

theorem answered_unchanged {call : Call} {rows : List TVlanRangeItem} (neat : Neat rows)
    {ret : RangeRet} (failed : ret ≠ .operSuccess) (small : call.writeCount rows ≤ 1) :
    Answered call rows (some ret, rows) := by
  have other : some ret ≠ some RangeRet.operSuccess := fun same => failed (Option.some.inj same)
  refine ⟨iff_of_true ?_ (writesSafely_of_le_one small), fun _ => neat⟩
  exact ⟨nofun, fun done => absurd done other, fun done => absurd done other,
    fun _ n covered _ => covered, fun _ n covered => .inl covered,
    fun _ => not_overlap_of_apart neat.apart⟩

theorem meetsIf_written {call : Call} {rows read calculated : List TVlanRangeItem}
    (neat : Neat rows) (same : read.Perm rows) (apartC : Apart calculated)
    (exact : ∀ n, Covers calculated n ↔ call.target (Covers rows) n)
    (valid : ∀ row ∈ calculated, checkAddVlanRange row = true)
    (replaces : Replaces calculated read)
    (count : (Session.plan calculated read).length = call.writeCount rows) :
    MeetsIf call rows
      (answered (written (Session.save checkAddVlanRange calculated read ⟨rows, call.fates⟩)))
      (Steady call.fates (call.writeCount rows)) := by
  have outcome := save_outcome neat.apart same apartC valid replaces call.fates
  generalize Session.save checkAddVlanRange calculated read ⟨rows, call.fates⟩ = result at outcome ⊢
  simp only [count] at outcome
  rcases outcome with ⟨done, made, steady⟩ | ⟨stopped, kept, steady⟩ | ⟨stopped, ⟨m, memM, t, memT,
    different, overlap⟩, unsteady⟩
  · have success : (answered (written result)).1 = some .operSuccess := by
      simp [answered, written, done]
    have apart : Apart result.2.rows := apartC.perm made.symm
    have ⟨form, order, canonical⟩ := apart.exists_canonical
    refine ⟨iff_of_true ?_ steady, fun _ => ⟨apart, fun row mem => valid row (made.mem_iff.mp mem)⟩⟩
    exact ⟨nofun, fun _ => ⟨form, order, canonical⟩,
      fun _ n => (covers_perm made n).trans (exact n), fun failed => absurd success failed,
      fun failed => absurd success failed, fun failed => absurd success failed⟩
  · have shape : answered (written result) = (some .dbError, rows) := by
      simp [answered, written, stopped, kept]
    rw [shape]
    refine ⟨iff_of_true ?_ steady, fun _ => neat⟩
    exact ⟨nofun, fun done => by simp at done, fun done => by simp at done,
      fun _ n covered _ => covered, fun _ n covered => .inl covered,
      fun _ => not_overlap_of_apart neat.apart⟩
  · refine ⟨iff_of_false (fun meets => ?_) unsteady, fun steady => absurd steady unsteady⟩
    have free := meets.disjoint (by simp [answered, written, stopped])
    have : Std.Symm fun a b : TVlanRangeItem => ¬ Overlap a b :=
      ⟨fun a b apart ⟨n, inB, inA⟩ => apart ⟨n, inA, inB⟩⟩
    exact free.forall memM memT different overlap

theorem addVlanRange_answered (std : StdSort) (answers : Answers) (cMsg : CVlanRangeMsg)
    {rows : List TVlanRangeItem} (neat : Neat rows) (sorts : Call.Sorts rows (.add answers cMsg)) :
    Answered (.add answers cMsg) rows (answered (addVlanRange std answers cMsg rows)) := by
  have guarded : ∀ ret : RangeRet, ret ≠ .operSuccess →
      ¬ (cMsg.isValidRange = true ∧ isConflictWithShareNetAccessVlan answers cMsg = false ∧
        isConflictWithShareNetTrunkVlan answers cMsg = false ∧ answers.queryFails = false) →
      Answered (.add answers cMsg) rows (answered (ret, rows)) := by
    intro ret failed closed
    exact answered_unchanged neat failed (by simp [Call.writeCount, closed])
  rw [addVlanRange]
  by_cases valid : cMsg.isValidRange = true
  swap
  · rw [if_pos (by simpa using valid)]
    exact guarded _ (by simp) fun all => valid all.1
  rw [if_neg (by simpa using valid)]
  by_cases access : isConflictWithShareNetAccessVlan answers cMsg = true
  · rw [if_pos access]
    exact guarded _ (by simp) fun all => by simp [access] at all
  rw [if_neg access]
  by_cases trunk : isConflictWithShareNetTrunkVlan answers cMsg = true
  · rw [if_pos trunk]
    exact guarded _ (by simp) fun all => by simp [trunk] at all
  rw [if_neg trunk]
  by_cases query : answers.queryFails = true
  · rw [if_pos query]
    exact guarded _ (by simp) fun all => by simp [query] at all
  rw [if_neg query]
  have bounds := item_bounds valid
  have same := answers.perm rows
  have count : (Call.add answers cMsg).writeCount rows = addCount rows cMsg.item := by
    rw [Call.writeCount, if_pos]
    exact ⟨valid, by simpa using access, by simpa using trunk, by simpa using query⟩
  have saved : ∀ calculated : List TVlanRangeItem, Apart calculated →
      (∀ n, Covers calculated n ↔ Covers rows n ∨ Contains cMsg.item n) →
      Answered (.add answers cMsg) rows
        (answered (written (Session.save checkAddVlanRange calculated (answers.order rows)
          ⟨rows, answers.fates⟩))) := by
    intro calculated apartC union
    have met : MeetsIf (.add answers cMsg) rows _ (Steady answers.fates _) :=
      meetsIf_written neat same apartC union (valid_of_covers apartC ?_)
        (addition_replaces neat.apart same apartC bounds.1 union) ?_
    · exact ⟨met.1.trans (and_true _).symm.to_iff, fun safe => met.2 safe.1⟩
    · intro n covered
      cases (union n).mp covered with
      | inl old => exact neat.bounded n old
      | inr new =>
          have ends : lo cMsg.item ≤ n ∧ n ≤ hi cMsg.item := new
          omega
    · rw [count]
      exact addition_plan_length neat.apart same apartC bounds.1 union
  simp only [VlanRange.loadAll_eq]
  by_cases none : (answers.order rows).isEmpty = true
  · have empty : answers.order rows = [] := by simpa using none
    have emptyRows : rows = [] := by
      rw [empty] at same
      exact same.symm.eq_nil
    have first := saved [cMsg.item] (canonical_singleton.mpr bounds.1).apart fun n => by
      simp [emptyRows]
    rw [empty] at first
    rw [if_pos none]
    have shape : Session.save checkAddVlanRange [cMsg.item] [] ⟨rows, answers.fates⟩ =
        Session.add checkAddVlanRange ⟨rows, answers.fates⟩ cMsg.item := by
      rw [Session.save_cons, if_neg (by simp)]
      cases Session.add checkAddVlanRange ⟨rows, answers.fates⟩ cMsg.item with
      | mk done s =>
          cases done with
          | false => rfl
          | true => rfl
    rwa [shape] at first
  · rw [if_neg none]
    obtain ⟨done, canonical, union⟩ := VlanRange.addRange_canonical std
      (neat.apart.perm same.symm) (fun row mem => (neat.bounded (hi row)
        ⟨row, same.mem_iff.mp mem, neat.apart.proper row (same.mem_iff.mp mem), Nat.le_refl _⟩).2)
      (sorts valid (by simpa using access) (by simpa using trunk) (by simpa using query))
      (item_valid valid)
    rw [if_neg (by simp [done])]
    exact saved _ canonical.apart fun n => (union n).trans (or_congr_left (covers_perm same n))

theorem delCount_eq_zero {rows : List TVlanRangeItem} {request : TVlanRangeItem}
    (outside : ∀ row ∈ rows, ¬ (lo row ≤ lo request ∧ hi request ≤ hi row)) :
    delCount rows request = 0 := by
  have none : rows.find? (fun row => lo row ≤ lo request ∧ hi request ≤ hi row) = none :=
    List.find?_eq_none.mpr fun row mem => by simpa using outside row mem
  rw [delCount, none]

theorem delVlanRange_answered (answers : Answers) (cMsg : CVlanRangeMsg)
    {rows : List TVlanRangeItem}
    (neat : Neat rows) : Answered (.del answers cMsg) rows (delVlanRange answers cMsg rows) := by
  have guarded : ∀ ret : RangeRet, ret ≠ .operSuccess →
      ¬ (cMsg.isValidRange = true ∧ answers.queryFails = false ∧ answers.allocNum = some 0) →
      Answered (.del answers cMsg) rows (some ret, rows) := by
    intro ret failed closed
    exact answered_unchanged neat failed (by simp [Call.writeCount, closed])
  rw [delVlanRange]
  by_cases valid : cMsg.isValidRange = true
  swap
  · rw [if_pos (by simpa using valid)]
    exact guarded _ (by simp) fun all => valid all.1
  rw [if_neg (by simpa using valid)]
  by_cases query : answers.queryFails = true
  · rw [if_pos query]
    exact guarded _ (by simp) fun all => by simp [query] at all
  rw [if_neg query]
  have same := answers.perm rows
  generalize answers.order rows = read at same ⊢
  have bounds := item_bounds valid
  simp only [VlanRange.loadAll_eq]
  by_cases none : read.isEmpty = true
  · have empty : read = [] := by simpa using none
    have emptyRows : rows = [] := by
      rw [empty] at same
      exact same.symm.eq_nil
    rw [if_pos none]
    refine answered_unchanged neat (by simp) ?_
    have zero : delCount rows cMsg.item = 0 := delCount_eq_zero (by simp [emptyRows])
    simp only [Call.writeCount, zero]
    split <;> omega
  rw [if_neg none]
  have filled : read ≠ [] := by simpa using none
  cases alloc : answers.allocNum with
  | none => exact guarded _ (by simp) fun all => by simp [alloc] at all
  | some nOccNum =>
      by_cases used : nOccNum ≠ 0
      · simp only [if_pos used]
        exact guarded _ (by simp) fun all => used (by simpa [alloc] using all.2.2)
      simp only [if_neg used]
      have count : (Call.del answers cMsg).writeCount rows = delCount rows cMsg.item := by
        rw [Call.writeCount, if_pos]
        exact ⟨valid, by simpa using query, by rw [alloc, not_not.mp used]⟩
      have apartR : Apart (VlanRange.kind.ranges read) :=
        VlanRange.apart_ranges.mpr (neat.apart.perm same.symm)
      have place : (VlanRange.delRange read cMsg.item).1 = 0 ↔ ∃ r ∈ VlanRange.kind.ranges read,
          lo r ≤ lo cMsg.item ∧ hi cMsg.item ≤ hi r :=
        RangeKind.delRange_done_iff (item_valid valid) apartR.proper filled
      by_cases done : (VlanRange.delRange read cMsg.item).1 = 0
      swap
      · rw [if_pos done]
        refine answered_unchanged neat (by simp) ?_
        rw [count, delCount_eq_zero]
        · omega
        · intro row mem inside
          exact done (place.mpr ⟨_, List.mem_map_of_mem (same.mem_iff.mpr mem), inside⟩)
      rw [if_neg (by simpa using done)]
      obtain ⟨earlier, r, later, split, low, high, proper, made⟩ :=
        @RangeKind.delRange_spec _ VlanRange.kind _ _ apartR.proper filled done
      obtain ⟨row, memRead, equal⟩ : ∃ row ∈ read, VlanRange.kind.toRange row = r :=
        List.mem_map.mp (split ▸ by simp : r ∈ VlanRange.kind.ranges read)
      subst equal
      have mem := same.mem_iff.mp memRead
      have apartC : Apart (VlanRange.delRange read cMsg.item).2 :=
        VlanRange.apart_ranges.mp (RangeKind.apart_delRange apartR filled done)
      have difference : ∀ n, Covers (VlanRange.delRange read cMsg.item).2 n ↔
          Covers rows n ∧ ¬ Contains cMsg.item n := by
        intro n
        have left := RangeKind.covers_delRange apartR filled done n
        rwa [VlanRange.covers_ranges, VlanRange.covers_ranges, covers_perm same] at left
      change VlanRange.kind.ranges (VlanRange.delRange read cMsg.item).2 = _ at made
      generalize (VlanRange.delRange read cMsg.item).2 = calculated at made apartC difference ⊢
      have length := deletion_plan_length neat.apart same apartC proper mem low high difference
          split made
      have stopped : calculated.isEmpty = true → ∀ ret : RangeRet, ret ≠ .operSuccess →
          Answered (.del answers cMsg) rows (some ret, rows) := by
        intro last ret failed
        refine answered_unchanged neat failed ?_
        have empty : calculated = [] := by simpa using last
        have left := deletion_left neat.apart same apartC proper mem low high difference
        rw [count, ← length, Session.plan, left, empty]
        simp
      have valid := valid_of_covers apartC fun n covered =>
        neat.bounded n ((difference n).mp covered).1
      have met : MeetsIf (.del answers cMsg) rows
          (answered (written (Session.save checkAddVlanRange calculated read
            ⟨rows, answers.fates⟩))) (Steady answers.fates _) :=
        meetsIf_written neat same apartC difference valid
          (deletion_replaces neat.apart same apartC proper mem low high difference)
          (length.trans count.symm)
      -- all writes but the last one are insertions
      have news : (calculated.filter (· ∉ read)).length =
          (Call.del answers cMsg).writeCount rows - 1 := by
        rw [count, ← length, Session.plan,
          deletion_left neat.apart same apartC proper mem low high difference]
        simp
      have inserted := @Session.addNews_iff _ _ checkAddVlanRange calculated _
        ⟨rows, answers.fates⟩ apartC.nodup (same.nodup_iff.mpr neat.apart.nodup) valid
      rw [news] at inserted
      have saved : Answered (.del answers cMsg) rows
          (afterNews
            (Session.addNews checkAddVlanRange calculated read ⟨rows, answers.fates⟩)) := by
        rw [Session.save] at met
        revert inserted met
        generalize Session.addNews checkAddVlanRange calculated read ⟨rows, answers.fates⟩ = added
        obtain ⟨done, outVInfo, s⟩ := added
        intro met inserted
        cases done with
        | false =>
            have failed : ¬(Call.del answers cMsg).WritesSafely rows := fun safe =>
              absurd (inserted.mpr safe.2) Bool.false_ne_true
            exact ⟨iff_of_false (fun meets => meets.answers rfl) failed,
              fun safe => absurd safe failed⟩
        | true =>
            have safe := inserted.mp rfl
            exact ⟨met.1.trans (and_iff_left safe).symm, fun safely => met.2 safely.1⟩
      by_cases last : calculated.isEmpty = true
      · simp only [last, if_true]
        cases answers.isolateNo with
        | none => exact stopped last _ (by simp)
        | some vecIsolateNo =>
            cases vecIsolateNo with
            | nil => exact saved
            | cons isolateNo others => exact stopped last _ (by simp)
      · simp only [last, Bool.false_eq_true, if_false]
        exact saved

theorem step_answered (std : StdSort) {rows : List TVlanRangeItem} (neat : Neat rows) {call : Call}
    (sorts : call.Sorts rows) : Answered call rows (call.step std rows) := by
  cases call with
  | add answers cMsg => exact addVlanRange_answered std answers cMsg neat sorts
  | del answers cMsg => exact delVlanRange_answered answers cMsg neat

theorem neat_nil : Neat [] := ⟨⟨by simp, List.Pairwise.nil⟩, by simp⟩

namespace Call

theorem run_append (std : StdSort) (calls : List Call) (call : Call) :
    run std (calls ++ [call]) = (call.step std (run std calls)).2 := by
  simp [run]

/-- Every addition of the run comes to rows that can be sorted with its request. -/
def AllSort (std : StdSort) (calls : List Call) : Prop :=
  ∀ earlier call, earlier ++ [call] <+: calls → call.Sorts (run std earlier)

theorem neat_run (std : StdSort) (calls : List Call) (sorts : AllSort std calls)
    (writes : ∀ earlier call, earlier ++ [call] <+: calls → call.WritesSafely (run std earlier)) :
    Neat (run std calls) := by
  induction calls using List.reverseRecOn with
  | nil => exact neat_nil
  | append_singleton calls call ih =>
      have before := ih (fun earlier call' part => sorts earlier call' (part.trans (by simp)))
        fun earlier call' part => writes earlier call' (part.trans (by simp))
      have here := List.prefix_refl (calls ++ [call])
      rw [run_append]
      exact (step_answered std before (sorts calls call here)).2 (writes calls call here)

/-- In a run whose additions can be sorted every call meets its purpose just when in none of them a
write failed after another one, and in no deletion an insertion. -/
theorem meets_iff_writesSafely (std : StdSort) (calls : List Call) (sorts : AllSort std calls) :
    (∀ earlier call, earlier ++ [call] <+: calls →
        call.Meets (run std earlier) (call.step std (run std earlier))) ↔
      ∀ earlier call, earlier ++ [call] <+: calls → call.WritesSafely (run std earlier) := by
  constructor
  · intro meets
    have neat : ∀ earlier, earlier <+: calls → Neat (run std earlier) := by
      intro earlier part
      induction earlier using List.reverseRecOn with
      | nil => exact neat_nil
      | append_singleton earlier call ih =>
          have answered := step_answered std (ih ((List.prefix_append _ _).trans part))
            (sorts earlier call part)
          rw [run_append]
          exact answered.2 (answered.1.mp (meets earlier call part))
    intro earlier call part
    exact (step_answered std (neat earlier ((List.prefix_append _ _).trans part))
      (sorts earlier call part)).1.mp (meets earlier call part)
  · intro writes earlier call part
    have within {front : List Call} (front' : front <+: earlier) : front <+: calls :=
      front'.trans ((List.prefix_append _ _).trans part)
    have neat := neat_run std earlier (fun front call' part' => sorts front call' (within part'))
      fun front call' part' => writes front call' (within part')
    exact (step_answered std neat (sorts earlier call part)).1.mpr (writes earlier call part)

/-- The answers of a quiet database, but for the writes. -/
def quiet (fates : List Bool) : Answers where
  shareNetAccessVlan := some []
  shareNetTrunkVlan := some []
  queryFails := false
  allocNum := some 0
  isolateNo := some []
  order rows := rows
  perm _ := List.Perm.refl _
  fates := fates

/-- An addition, and a deletion from the middle of it. -/
theorem quiet_calls_meet :
    let calls := [add (quiet []) ⟨2, 10⟩, del (quiet []) ⟨4, 5⟩]
    AllSort .byStart calls ∧
      (∀ earlier call, earlier ++ [call] <+: calls →
        call.Meets (run .byStart earlier) (call.step .byStart (run .byStart earlier))) ∧
      run .byStart calls = [⟨2, 3⟩, ⟨6, 10⟩] := by
  intro calls
  have each {P : List Call → Call → Prop} (first : P [] (add (quiet []) ⟨2, 10⟩))
      (second : P [add (quiet []) ⟨2, 10⟩] (del (quiet []) ⟨4, 5⟩)) :
      ∀ earlier call, earlier ++ [call] <+: calls → P earlier call := by
    rintro earlier call ⟨rest, split⟩
    rcases earlier with _ | ⟨one, _ | ⟨two, more⟩⟩
    · obtain ⟨rfl, -⟩ := List.cons.inj split
      exact first
    · obtain ⟨rfl, later⟩ := List.cons.inj split
      obtain ⟨rfl, -⟩ := List.cons.inj later
      exact second
    · simp [calls] at split
  have sorts : AllSort .byStart calls := each (fun _ _ _ _ => by decide) trivial
  refine ⟨sorts, (meets_iff_writesSafely .byStart calls sorts).mpr (each ?_ ?_), by decide⟩
  · exact writesSafely_of_le_one (by decide)
  · exact ⟨.inr (by decide), by decide⟩

/-- A deletion stops before it takes the old row out. It is repeated and succeeds, and leaves its
remainder twice; an addition elsewhere then strikes off one of the two rows, deletes the other by
its ends, and with it both. -/
theorem numbers_lost_after_stopped_write :
    let earlier := [add (quiet []) ⟨2, 10⟩]
    let stopped := earlier ++ [del (quiet [true, false]) ⟨5, 10⟩]
    let repeated := stopped ++ [del (quiet []) ⟨5, 10⟩]
    (step .byStart (run .byStart earlier) (del (quiet [true, false]) ⟨5, 10⟩)) =
        (some .dbError, [⟨2, 10⟩, ⟨2, 4⟩]) ∧
      ¬ Meets (del (quiet [true, false]) ⟨5, 10⟩) (run .byStart earlier)
        (some .dbError, [⟨2, 10⟩, ⟨2, 4⟩]) ∧
      step .byStart (run .byStart stopped) (del (quiet []) ⟨5, 10⟩) =
        (some .operSuccess, [⟨2, 4⟩, ⟨2, 4⟩]) ∧
      step .byStart (run .byStart repeated) (add (quiet []) ⟨20, 30⟩) =
        (some .operSuccess, [⟨20, 30⟩]) := by
  intro earlier stopped repeated
  refine ⟨by decide, fun meets => ?_, by decide, by decide⟩
  have free := meets.disjoint (by decide)
  rw [List.pairwise_cons] at free
  exact free.1 ⟨2, 4⟩ (by simp) ⟨2, by decide, by decide⟩

end Call

end Tecs.VlanPoolMgr
