import Tecs.Library.Intervals
import Tecs.Vnm.TableWrites

set_option autoImplicit false

/-! What the writes of one call do to rows that have gaps between them. -/

namespace Tecs

open Bounds Intervals

variable {R : Type} [DecidableEq R]

/-- If one of the first `count` writes fails, it is the first of all. -/
def Steady (fates : List Bool) (count : ℕ) : Prop :=
  fates.head? = some false ∨ false ∉ fates.take count

section Plan

variable {accepts : R → Bool} {rows read calculated : List R}

theorem mem_applyAll_plan (nodup : rows.Nodup) (others : List R)
    (same : (others ++ read).Perm rows) (row : R) :
    row ∈ Write.applyAll (Session.plan calculated read) rows ↔ row ∈ others ∨ row ∈ calculated := by
  have apart : row ∈ others → row ∉ read := by
    intro mem memRead
    exact (List.nodup_append.mp (same.nodup_iff.mpr nodup)).2.2 row mem row memRead rfl
  rw [Session.plan, Write.applyAll_append, Write.applyAll_add, Write.mem_applyAll_del]
  simp only [List.mem_append, List.mem_filter, decide_eq_true_eq, ← same.mem_iff]
  tauto

theorem nodup_news (nodup : rows.Nodup) (nodupC : calculated.Nodup)
    (others : List R) (same : (others ++ read).Perm rows)
    (fresh : ∀ row ∈ others, row ∉ calculated) :
    (rows ++ calculated.filter (· ∉ read)).Nodup := by
  rw [List.nodup_append]
  refine ⟨nodup, nodupC.filter _, ?_⟩
  rintro row mem _ new rfl
  simp only [List.mem_filter, decide_eq_true_eq] at new
  cases List.mem_append.mp (same.mem_iff.mpr mem) with
  | inl other => exact fresh row other new.1
  | inr stored => exact new.2 stored

/-- The rows read give way to the calculated ones, the others stay. -/
theorem applyAll_plan_perm (nodup : rows.Nodup) (nodupC : calculated.Nodup) (others : List R)
    (same : (others ++ read).Perm rows) (fresh : ∀ row ∈ others, row ∉ calculated) :
    (Write.applyAll (Session.plan calculated read) rows).Perm (others ++ calculated) := by
  have nodupO := (List.nodup_append.mp (same.nodup_iff.mpr nodup)).1
  rw [List.perm_ext_iff_of_nodup]
  · intro row
    rw [mem_applyAll_plan nodup others same, List.mem_append]
  · rw [Session.plan, Write.applyAll_append, Write.applyAll_add]
    exact Write.nodup_applyAll_del _ (nodup_news nodup nodupC others same fresh)
  · rw [List.nodup_append]
    refine ⟨nodupO, nodupC, ?_⟩
    rintro row mem _ memC rfl
    exact fresh row mem memC

theorem allAllowed_plan (nodup : rows.Nodup) (others : List R)
    (same : (others ++ read).Perm rows)
    (valid : ∀ row ∈ calculated, row ∉ read → accepts row = true) :
    Write.AllAllowed accepts (Session.plan calculated read) rows := by
  have nodupR := (List.nodup_append.mp (same.nodup_iff.mpr nodup)).2.1
  rw [Session.plan, Write.allAllowed_append]
  refine ⟨Write.allAllowed_add (fun row mem => ?_) rows, ?_⟩
  · simp only [List.mem_filter, decide_eq_true_eq] at mem
    exact valid row mem.1 mem.2
  · refine Write.allAllowed_del (nodupR.filter _) fun row mem => ?_
    rw [Write.applyAll_add, List.mem_append]
    exact .inl (same.mem_iff.mp (List.mem_append_right _ (List.mem_of_mem_filter mem)))

/-- Statements that all take effect, and at most one new row: if the procedure refuses it, nothing
is written. -/
theorem save_rows (nodup : rows.Nodup) (nodupC : calculated.Nodup) (others : List R)
    (same : (others ++ read).Perm rows) (fresh : ∀ row ∈ others, row ∉ calculated)
    (single : Session.plan calculated read = [] ∨ ∃ s, calculated.filter (· ∉ read) = [s]) :
    (Session.save accepts calculated read ⟨rows, []⟩).2.rows = rows ∨
      (Session.save accepts calculated read ⟨rows, []⟩).2.rows.Perm (others ++ calculated) := by
  have nodupR := (List.nodup_append.mp (same.nodup_iff.mpr nodup)).2.1
  rw [Session.save_eq calculated _ nodupC nodupR]
  rcases single with none | ⟨s, news⟩
  · rw [none]
    exact .inl rfl
  by_cases accepted : accepts s = true
  · have valid : ∀ row ∈ calculated, row ∉ read → accepts row = true := by
      intro row mem new
      have inNews : row ∈ calculated.filter (· ∉ read) := by simp [mem, new]
      rw [news, List.mem_singleton] at inNews
      rw [inNews, accepted]
    have allowed : Write.AllAllowed accepts (Session.plan calculated read) rows :=
      allAllowed_plan nodup others same valid
    rcases Session.execAll_cases (s := ⟨rows, []⟩) _ allowed with ⟨_, made, _⟩ | ⟨_, _, failed, _⟩
    · rw [made]
      exact .inr (applyAll_plan_perm nodup nodupC others same fresh)
    · simp at failed
  · rw [Session.plan, news, List.map_cons, List.cons_append, Session.execAll, Session.exec,
      Session.add, if_neg (by simp), if_neg accepted]
    exact .inl rfl

end Plan

variable [Bounds R]

/-- New ranges overlap the rows they replace, and several writes come with a new range and a row
it replaces. -/
structure Replaces (calculated read : List R) : Prop where
  overlap : ∀ m ∈ calculated, m ∉ read → ∀ t ∈ read, t ∉ calculated → Overlap m t
  replaced : 2 ≤ (calculated.filter (· ∉ read)).length → read.filter (· ∉ calculated) ≠ []
  replacing : 2 ≤ (read.filter (· ∉ calculated)).length → calculated.filter (· ∉ read) ≠ []

section Save

variable {accepts : R → Bool} {rows read calculated : List R}

/-- After some of the writes, but not all, a new range stands beside a row it was to replace. -/
theorem overlap_of_stopped (same : read.Perm rows) (nodup : rows.Nodup)
    (replaces : Replaces calculated read) {k : ℕ} (started : 0 < k)
    (stopped : k < (Session.plan calculated read).length) :
    ∃ m ∈ Write.applyAll ((Session.plan calculated read).take k) rows,
      ∃ t ∈ Write.applyAll ((Session.plan calculated read).take k) rows, m ≠ t ∧ Overlap m t := by
  have replaced := replaces.replaced
  have replacing := replaces.replacing
  have distinct : (read.filter (· ∉ calculated)).Nodup := (same.nodup_iff.mpr nodup).filter _
  have pair : ∀ m ∈ calculated.filter (· ∉ read), ∀ t ∈ read.filter (· ∉ calculated),
      m ≠ t ∧ Overlap m t ∧ t ∈ rows := by
    intro m memM t memT
    simp only [List.mem_filter, decide_eq_true_eq] at memM memT
    exact ⟨fun equal => memM.2 (equal ▸ memT.1), replaces.overlap m memM.1 memM.2 t memT.1 memT.2,
      same.mem_iff.mp memT.1⟩
  rw [Session.plan] at stopped ⊢
  generalize calculated.filter (· ∉ read) = news at *
  generalize read.filter (· ∉ calculated) = left at *
  simp only [List.length_append, List.length_map] at stopped
  have someNew : news ≠ [] := by
    intro none
    subst none
    simp only [List.length_nil] at stopped
    exact replacing (by omega) rfl
  obtain ⟨m, rest, rfl⟩ := List.exists_cons_of_ne_nil someNew
  have someLeft : left ≠ [] := by
    intro none
    subst none
    simp only [List.length_nil, List.length_cons] at stopped
    exact replaced (by simp only [List.length_cons]; omega) rfl
  -- the row whose turn would have come last is still there
  obtain ⟨t, memT, kept⟩ : ∃ t ∈ left, t ∉ left.take (k - (m :: rest).length) := by
    refine ⟨left.getLast someLeft, List.getLast_mem someLeft, fun mem => ?_⟩
    obtain ⟨i, small, at_i⟩ := List.mem_take_iff_getElem.mp mem
    have last := List.getLast_eq_getElem someLeft
    rw [last] at at_i
    have index := (distinct.getElem_inj_iff).mp at_i
    simp only [List.length_cons] at small stopped
    omega
  obtain ⟨different, overlap, stored⟩ := pair m (by simp) t memT
  obtain ⟨j, rfl⟩ : ∃ j, k = j + 1 := ⟨k - 1, by omega⟩
  have shape : Write.applyAll (List.take (j + 1) ((m :: rest).map .add ++ left.map .del)) rows =
      Write.applyAll ((left.take (j + 1 - (m :: rest).length)).map .del)
        (rows ++ m :: rest.take j) := by
    rw [List.take_append, Write.applyAll_append, ← List.map_take, ← List.map_take, List.length_map,
      Write.applyAll_add, List.take_succ_cons]
  rw [shape]
  refine ⟨m, ?_, t, ?_, different, overlap⟩
  · rw [Write.mem_applyAll_del]
    refine ⟨by simp, fun mem => ?_⟩
    exact (pair m (by simp) m (List.mem_of_mem_take mem)).1 rfl
  · rw [Write.mem_applyAll_del]
    exact ⟨by simp [stored], kept⟩

/-- The three ways in which the writes of a call can end. -/
theorem save_outcome (apart : Apart rows) (same : read.Perm rows) (apartC : Apart calculated)
    (valid : ∀ row ∈ calculated, accepts row = true)
    (replaces : Replaces calculated read) (fates : List Bool) :
    let result := Session.save accepts calculated read ⟨rows, fates⟩
    let steady := Steady fates (Session.plan calculated read).length
    (result.1 = true ∧ result.2.rows.Perm calculated ∧ steady) ∨
    (result.1 = false ∧ result.2.rows = rows ∧ steady) ∨
    (result.1 = false ∧ (∃ m ∈ result.2.rows, ∃ t ∈ result.2.rows, m ≠ t ∧ Overlap m t) ∧
      ¬ steady) := by
  intro result steady
  have shape : result = Session.execAll accepts (Session.plan calculated read) ⟨rows, fates⟩ :=
    Session.save_eq calculated _ apartC.nodup (same.nodup_iff.mpr apart.nodup)
  rw [shape]
  rcases Session.execAll_cases (s := ⟨rows, fates⟩) _
      (allAllowed_plan apart.nodup [] same fun row mem _ => valid row mem)
    with ⟨done, made, none⟩ | ⟨k, small, failed, none, stopped, made⟩
  · refine .inl ⟨done, ?_, .inr none⟩
    rw [made]
    exact applyAll_plan_perm apart.nodup apartC.nodup [] same (by simp)
  · by_cases started : 0 < k
    · refine .inr (.inr ⟨stopped, ?_, ?_⟩)
      · rw [made]
        exact overlap_of_stopped same apart.nodup replaces started small
      · rintro (first | all)
        · have head : false ∈ fates.take k := by
            cases fates with
            | nil => simp at first
            | cons fate fates =>
                obtain ⟨j, rfl⟩ : ∃ j, k = j + 1 := ⟨k - 1, by omega⟩
                simp at first
                simp [first]
          exact none head
        · apply all
          rw [List.mem_take_iff_getElem]
          have ⟨inside, value⟩ := List.getElem?_eq_some_iff.mp failed
          exact ⟨k, lt_min small inside, value⟩
    · have zero : k = 0 := by omega
      subst zero
      refine .inr (.inl ⟨stopped, made, .inl ?_⟩)
      rw [List.head?_eq_getElem?]
      exact failed

end Save

/-- The writes of an addition: none inside a stored row, else the new row and a deletion for each
row that it touches. -/
def addCount (rows : List R) (request : R) : ℕ :=
  if ∃ row ∈ rows, lo row ≤ lo request ∧ hi request ≤ hi row then 0
  else 1 + (rows.filter fun row => ¬ Separate row request).length

/-- The writes of a deletion: the parts left below and above, and the deletion of the row. -/
def delCount (rows : List R) (request : R) : ℕ :=
  match rows.find? fun row => lo row ≤ lo request ∧ hi request ≤ hi row with
  | none => 0
  | some row => (if lo row < lo request then 1 else 0) + (if hi request < hi row then 1 else 0) + 1

section Addition

variable [ExactBounds R] {rows read calculated : List R} {request : R}
  (apart : Apart rows) (same : read.Perm rows) (apartC : Apart calculated)
  (proper : lo request ≤ hi request)
  (union : ∀ n, Covers calculated n ↔ Covers rows n ∨ Contains request n)

include apart same apartC proper union

theorem addition_inside {row : R} (mem : row ∈ rows)
    (inside : lo row ≤ lo request ∧ hi request ≤ hi row) :
    calculated.filter (· ∉ read) = [] ∧ read.filter (· ∉ calculated) = [] := by
  have start : Contains row (lo request) := ⟨inside.1, Nat.le_trans proper inside.2⟩
  simp only [List.filter_eq_nil_iff, decide_eq_true_eq, not_not]
  constructor
  · intro m memM
    by_contra fresh
    rw [same.mem_iff] at fresh
    have around := contains_of_new apart apartC proper union memM fresh
    have kept := (mem_union_iff apart apartC proper union mem).mpr (.inr inside)
    have equal := apartC.eq_of_overlap memM kept
      ⟨lo request, ⟨around.1, Nat.le_trans proper around.2⟩, start⟩
    exact fresh (equal ▸ mem)
  · intro t memT
    have memT' := same.mem_iff.mp memT
    rw [mem_union_iff apart apartC proper union memT']
    by_cases equal : t = row
    · exact .inr (equal ▸ inside)
    · have away := apart.apart.forall memT' mem equal
      simp only [Separate, Before] at away ⊢
      omega

theorem addition_outside (outside : ¬ ∃ row ∈ rows, lo row ≤ lo request ∧ hi request ≤ hi row) :
    (∃ s, calculated.filter (· ∉ read) = [s]) ∧
      read.filter (· ∉ calculated) = read.filter fun row => ¬ Separate row request := by
  have ⟨s, memS, low, high⟩ := apartC.exists_contains proper fun n low high =>
    (union n).mpr (.inr ⟨low, high⟩)
  constructor
  · refine ⟨s, List.perm_singleton.mp ?_⟩
    rw [List.perm_ext_iff_of_nodup (apartC.nodup.filter _) (List.nodup_singleton s)]
    intro m
    simp only [List.mem_filter, decide_eq_true_eq, List.mem_singleton, same.mem_iff]
    constructor
    · rintro ⟨memM, fresh⟩
      have around := contains_of_new apart apartC proper union memM fresh
      exact apartC.eq_of_overlap memM memS
        ⟨lo request, ⟨around.1, Nat.le_trans proper around.2⟩, low, Nat.le_trans proper high⟩
    · rintro rfl
      exact ⟨memS, fun stored => outside ⟨m, stored, low, high⟩⟩
  · refine List.filter_congr fun t memT => ?_
    have memT' := same.mem_iff.mp memT
    have free : ¬ (lo t ≤ lo request ∧ hi request ≤ hi t) := fun inside =>
        outside ⟨t, memT', inside⟩
    simp only [mem_union_iff apart apartC proper union memT', free, or_false]

/-- The writes of an addition come with at most one new row. -/
theorem addition_single :
    Session.plan calculated read = [] ∨ ∃ s, calculated.filter (· ∉ read) = [s] := by
  by_cases inside : ∃ row ∈ rows, lo row ≤ lo request ∧ hi request ≤ hi row
  · have ⟨row, mem, place⟩ := inside
    have ⟨news, left⟩ := addition_inside apart same apartC proper union mem place
    rw [Session.plan, news, left]
    exact .inl rfl
  · exact .inr (addition_outside apart same apartC proper union inside).1

theorem addition_plan_length :
    (Session.plan calculated read).length = addCount rows request := by
  rw [Session.plan, List.length_append, List.length_map, List.length_map, addCount]
  by_cases inside : ∃ row ∈ rows, lo row ≤ lo request ∧ hi request ≤ hi row
  · rw [if_pos inside]
    obtain ⟨row, mem, place⟩ := inside
    obtain ⟨news, left⟩ := addition_inside apart same apartC proper union mem place
    rw [news, left]
    rfl
  · obtain ⟨⟨s, news⟩, left⟩ := addition_outside apart same apartC proper union inside
    rw [news, left, if_neg inside, (same.filter _).length_eq]
    rfl

theorem addition_replaces : Replaces calculated read := by
  refine ⟨?_, ?_, ?_⟩
  · intro m memM fresh t memT gone
    rw [same.mem_iff] at fresh memT
    have around := contains_of_new apart apartC proper union memM fresh
    rw [mem_union_iff apart apartC proper union memT, not_or] at gone
    have properT := apart.proper t memT
    obtain ⟨s, memS, low, high⟩ := apartC.exists_contains properT fun n low high =>
      (union n).mpr (.inl ⟨t, memT, low, high⟩)
    have equal : m = s := by
      by_contra different
      have away := apartC.apart.forall memM memS different
      have touch := gone.1
      simp only [Separate, Before] at away touch
      omega
    subst equal
    exact ⟨lo t, ⟨low, Nat.le_trans properT high⟩, Nat.le_refl _, properT⟩
  · intro several
    by_cases inside : ∃ row ∈ rows, lo row ≤ lo request ∧ hi request ≤ hi row
    · obtain ⟨row, mem, place⟩ := inside
      rw [(addition_inside apart same apartC proper union mem place).1] at several
      simp at several
    · obtain ⟨⟨s, news⟩, _⟩ := addition_outside apart same apartC proper union inside
      rw [news] at several
      simp at several
  · intro several
    by_cases inside : ∃ row ∈ rows, lo row ≤ lo request ∧ hi request ≤ hi row
    · obtain ⟨row, mem, place⟩ := inside
      rw [(addition_inside apart same apartC proper union mem place).2] at several
      simp at several
    · obtain ⟨⟨s, news⟩, _⟩ := addition_outside apart same apartC proper union inside
      rw [news]
      simp

end Addition

section Deletion

variable [ExactBounds R] {rows read calculated : List R} {row request : R}
  (apart : Apart rows) (same : read.Perm rows) (apartC : Apart calculated)
  (proper : lo request ≤ hi request) (mem : row ∈ rows) (low : lo row ≤ lo request)
  (high : hi request ≤ hi row)
  (difference : ∀ n, Covers calculated n ↔ Covers rows n ∧ ¬ Contains request n)

include apart same apartC proper mem low high difference

theorem deletion_left : read.filter (· ∉ calculated) = [row] := by
  refine List.perm_singleton.mp ?_
  have nodup := (same.nodup_iff.mpr apart.nodup).filter (· ∉ calculated)
  rw [List.perm_ext_iff_of_nodup nodup (List.nodup_singleton row)]
  intro t
  simp only [List.mem_filter, decide_eq_true_eq, List.mem_singleton, same.mem_iff]
  constructor
  · rintro ⟨memT, gone⟩
    rw [mem_difference_iff apart apartC proper mem low high difference memT, not_not] at gone
    exact gone
  · rintro rfl
    refine ⟨mem, ?_⟩
    rw [mem_difference_iff apart apartC proper mem low high difference mem]
    exact fun other => other rfl

theorem deletion_replaces : Replaces calculated read := by
  have left := deletion_left apart same apartC proper mem low high difference
  refine ⟨?_, fun _ => ?_, fun several => ?_⟩
  · intro m memM fresh t memT gone
    have equal : t = row := by
      have inLeft : t ∈ read.filter (· ∉ calculated) := by simp [memT, gone]
      rwa [left, List.mem_singleton] at inLeft
    rw [same.mem_iff] at fresh
    exact equal ▸ overlap_of_remains apart apartC proper mem low high difference memM fresh
  · rw [left]
    simp
  · rw [left] at several
    simp at several

end Deletion

end Tecs
