import Mathlib

set_option autoImplicit false

/-! Lists of values under keys, kept free of repetitions and of empty lists. -/

namespace ListIndex

variable {K V : Type} [Ord K] [Std.TransOrd K] [Std.LawfulEqOrd K] [DecidableEq K]
  [DecidableEq V]

/-- The values listed under a key. -/
def listed (index : Std.TreeMap K (List V)) (key : K) : List V := index[key]?.getD []

/-- Put a value at the end of the list of a key, unless it is listed already. -/
def add (index : Std.TreeMap K (List V)) (key : K) (value : V) : Std.TreeMap K (List V) :=
  match index[key]? with
  | none => index.insert key [value]
  | some found => if value ∈ found then index else index.insert key (found ++ [value])

/-- Take a value out of the list of a key, and the key out with its last value. -/
def remove (index : Std.TreeMap K (List V)) (key : K) (value : V) : Std.TreeMap K (List V) :=
  match index[key]? with
  | none => index
  | some found =>
      if (found.erase value).isEmpty then index.erase key
      else index.insert key (found.erase value)

/-- No list is empty and none repeats a value. -/
def Tidy (index : Std.TreeMap K (List V)) : Prop :=
  ∀ (key : K) (found : List V), index[key]? = some found → found ≠ [] ∧ found.Nodup

variable {index : Std.TreeMap K (List V)} {key other : K} {value : V}

omit [Std.TransOrd K] [Std.LawfulEqOrd K] [DecidableEq K] [DecidableEq V] in
theorem listed_of_getElem? {found : List V} (stored : index[key]? = some found) :
    listed index key = found := by
  simp [listed, stored]

omit [Std.LawfulEqOrd K] [DecidableEq K] [DecidableEq V] in
theorem tidy_empty : Tidy (∅ : Std.TreeMap K (List V)) := by
  intro key found stored
  simp at stored

omit [Std.TransOrd K] [Std.LawfulEqOrd K] [DecidableEq K] [DecidableEq V] in
theorem Tidy.nodup (tidy : Tidy index) (key : K) : (listed index key).Nodup := by
  cases stored : index[key]? with
  | none => simp [listed, stored]
  | some found =>
      rw [listed_of_getElem? stored]
      exact (tidy key found stored).2

theorem getElem?_add :
    (add index key value)[other]? =
      if other = key then
        some (if value ∈ listed index key then listed index key else listed index key ++ [value])
      else index[other]? := by
  cases stored : index[key]? with
  | none =>
      have empty : listed index key = [] := by simp [listed, stored]
      simp only [add, stored, empty]
      rw [Std.TreeMap.getElem?_insert]
      by_cases same : other = key
      · simp [same]
      · simp [same, Ne.symm same]
  | some found =>
      simp only [add, stored, listed_of_getElem? stored]
      by_cases known : value ∈ found
      · by_cases same : other = key
        · simp [known, same, stored]
        · simp [known, same]
      · rw [if_neg known, Std.TreeMap.getElem?_insert]
        by_cases same : other = key
        · simp [known, same]
        · simp [same, Ne.symm same]

theorem getElem?_remove :
    (remove index key value)[other]? =
      if other = key then
        if (listed index key).erase value = [] then none
        else some ((listed index key).erase value)
      else index[other]? := by
  cases stored : index[key]? with
  | none =>
      have empty : listed index key = [] := by simp [listed, stored]
      by_cases same : other = key
      · simp [remove, stored, empty, same]
      · simp [remove, stored, same]
  | some found =>
      simp only [remove, stored, listed_of_getElem? stored]
      by_cases last : found.erase value = []
      · rw [if_pos (List.isEmpty_iff.mpr last), Std.TreeMap.getElem?_erase]
        by_cases same : other = key
        · simp [same, last]
        · simp [same, Ne.symm same]
      · have rest : ¬ (found.erase value).isEmpty = true := by simpa using last
        rw [if_neg rest, Std.TreeMap.getElem?_insert]
        by_cases same : other = key
        · simp [same, last]
        · simp [same, Ne.symm same]

theorem mem_listed_add {member : V} :
    member ∈ listed (add index key value) other ↔
      member ∈ listed index other ∨ (other = key ∧ member = value) := by
  have read : listed (add index key value) other = ((add index key value)[other]?).getD [] := rfl
  rw [read, getElem?_add]
  by_cases same : other = key
  · subst same
    by_cases known : value ∈ listed index other
    · simp only [if_true, known, Option.getD_some, true_and]
      constructor
      · exact Or.inl
      · rintro (inside | rfl)
        · exact inside
        · exact known
    · simp [known]
  · simp [same, listed]

theorem mem_listed_remove (tidy : Tidy index) {member : V} :
    member ∈ listed (remove index key value) other ↔
      member ∈ listed index other ∧ ¬ (other = key ∧ member = value) := by
  have erased : member ∈ (listed index key).erase value ↔
      member ≠ value ∧ member ∈ listed index key := (tidy.nodup key).mem_erase_iff
  rw [listed, getElem?_remove]
  by_cases same : other = key
  · subst same
    by_cases last : (listed index other).erase value = []
    · rw [last] at erased
      simp only [last, if_true, Option.getD_none, true_and]
      rw [and_comm, ← erased]
    · simp only [last, if_true, if_false, Option.getD_some, true_and]
      rw [and_comm, ← erased]
  · simp [same, listed]

theorem Tidy.add (tidy : Tidy index) (key : K) (value : V) : Tidy (add index key value) := by
  intro other found stored
  rw [getElem?_add] at stored
  by_cases same : other = key
  · rw [if_pos same] at stored
    obtain rfl := Option.some.inj stored
    have nodup := tidy.nodup key
    by_cases known : value ∈ listed index key
    · rw [if_pos known]
      exact ⟨List.ne_nil_of_mem known, nodup⟩
    · rw [if_neg known]
      exact ⟨by simp, List.nodup_append.mpr ⟨nodup, List.nodup_singleton value, by
        intro member inside last single equal
        rw [equal, List.mem_singleton.mp single] at inside
        exact known inside⟩⟩
  · rw [if_neg same] at stored
    exact tidy other found stored

theorem Tidy.remove (tidy : Tidy index) (key : K) (value : V) : Tidy (remove index key value) := by
  intro other found stored
  rw [getElem?_remove] at stored
  by_cases same : other = key
  · rw [if_pos same] at stored
    split at stored
    · cases stored
    · rename_i left
      obtain rfl := Option.some.inj stored
      exact ⟨left, (tidy.nodup key).erase value⟩
  · rw [if_neg same] at stored
    exact tidy other found stored

/-- Putting a new value in and taking it out again leaves every list as it was. -/
theorem getElem?_remove_add (tidy : Tidy index) (fresh : value ∉ listed index key) :
    (remove (add index key value) key value)[other]? = index[other]? := by
  rw [getElem?_remove]
  by_cases same : other = key
  · have added : listed (add index key value) key = listed index key ++ [value] := by
      rw [listed, getElem?_add, if_pos rfl, if_neg fresh]
      rfl
    have erased : (listed index key ++ [value]).erase value = listed index key := by
      rw [List.erase_append_right _ fresh, List.erase_cons_head, List.append_nil]
    rw [if_pos same, added, erased, same]
    cases stored : index[key]? with
    | none => simp [listed, stored]
    | some found =>
        have filled := (tidy key found stored).1
        simp [listed, stored, filled]
  · rw [if_neg same, getElem?_add, if_neg same]

end ListIndex
