import Mathlib

set_option autoImplicit false

/-! Lists whose entries are found by a key. -/

namespace KeyedList

variable {α K : Type} [DecidableEq K] (key : α → K) (k : K)

def lookup (list : List α) : Option α := list.find? (key · = k)

/-- Without the first entry under a key. -/
def remove (list : List α) : List α := list.eraseP (key · = k)

/-- With the first entry under a key changed. -/
def replace (f : α → α) : List α → List α
  | [] => []
  | a :: rest => if key a = k then f a :: rest else a :: replace f rest

variable {key k} {list : List α} {a : α} {other : K} {f : α → α}

theorem lookup_cons :
    lookup key k (a :: list) = if key a = k then some a else lookup key k list := by
  by_cases same : key a = k <;> simp [lookup, same]

theorem remove_cons :
    remove key k (a :: list) = if key a = k then list else a :: remove key k list := by
  by_cases same : key a = k <;> simp [remove, same]

theorem key_of_lookup (found : lookup key k list = some a) : key a = k := by
  simpa using List.find?_some found

theorem mem_of_lookup (found : lookup key k list = some a) : a ∈ list :=
  List.mem_of_find?_eq_some found

theorem lookup_eq_none : lookup key k list = none ↔ k ∉ list.map key := by
  simp [lookup, List.find?_eq_none]

theorem lookup_of_mem (nodup : (list.map key).Nodup) (mem : a ∈ list) :
    lookup key (key a) list = some a := by
  induction list with
  | nil => cases mem
  | cons b rest ih =>
      rw [List.map_cons, List.nodup_cons] at nodup
      rw [lookup_cons]
      cases mem with
      | head => rw [if_pos rfl]
      | tail _ mem =>
          have apart : key b ≠ key a := by
            intro same
            exact nodup.1 (same ▸ List.mem_map_of_mem mem)
          rw [if_neg apart]
          exact ih nodup.2 mem

theorem lookup_remove_self (nodup : (list.map key).Nodup) :
    lookup key k (remove key k list) = none := by
  induction list with
  | nil => rfl
  | cons b rest ih =>
      rw [List.map_cons, List.nodup_cons] at nodup
      rw [remove_cons]
      by_cases same : key b = k
      · rw [if_pos same, lookup_eq_none, ← same]
        exact nodup.1
      · rw [if_neg same, lookup_cons, if_neg same]
        exact ih nodup.2

theorem lookup_remove_other (apart : other ≠ k) :
    lookup key other (remove key k list) = lookup key other list := by
  induction list with
  | nil => rfl
  | cons b rest ih =>
      rw [remove_cons]
      by_cases same : key b = k
      · rw [if_pos same, lookup_cons, if_neg (same ▸ apart.symm)]
      · rw [if_neg same, lookup_cons, lookup_cons]
        exact congrArg _ ih

theorem nodup_remove (nodup : (list.map key).Nodup) : ((remove key k list).map key).Nodup :=
  nodup.sublist (List.eraseP_sublist.map key)

theorem map_replace (kept : ∀ a, key (f a) = key a) :
    (replace key k f list).map key = list.map key := by
  induction list with
  | nil => rfl
  | cons b rest ih =>
      rw [replace]
      split
      · rw [List.map_cons, List.map_cons, kept]
      · rw [List.map_cons, List.map_cons, ih]

theorem lookup_replace_self (kept : ∀ a, key (f a) = key a) :
    lookup key k (replace key k f list) = (lookup key k list).map f := by
  induction list with
  | nil => rfl
  | cons b rest ih =>
      rw [replace]
      by_cases same : key b = k
      · rw [if_pos same, lookup_cons, lookup_cons, if_pos (by rw [kept, same]), if_pos same]
        rfl
      · rw [if_neg same, lookup_cons, lookup_cons, if_neg same, if_neg same, ih]

theorem lookup_replace_other (kept : ∀ a, key (f a) = key a) (apart : other ≠ k) :
    lookup key other (replace key k f list) = lookup key other list := by
  induction list with
  | nil => rfl
  | cons b rest ih =>
      rw [replace]
      by_cases same : key b = k
      · have differs : key b ≠ other := same ▸ apart.symm
        rw [if_pos same, lookup_cons, lookup_cons, if_neg (by rw [kept]; exact differs),
          if_neg differs]
      · rw [if_neg same, lookup_cons, lookup_cons, ih]

/-- What stands under other keys stays. -/
theorem mem_replace_other (kept : ∀ a, key (f a) = key a) (apart : key a ≠ k) :
    a ∈ replace key k f list ↔ a ∈ list := by
  induction list with
  | nil => exact Iff.rfl
  | cons b rest ih =>
      rw [replace]
      by_cases same : key b = k
      · rw [if_pos same, List.mem_cons, List.mem_cons]
        have new : a ≠ f b := fun eq => apart (by rw [eq, kept, same])
        have old : a ≠ b := fun eq => apart (by rw [eq, same])
        rw [or_iff_right new, or_iff_right old]
      · rw [if_neg same, List.mem_cons, List.mem_cons, ih]

theorem mem_replace (mem : a ∈ replace key k f list) :
    a ∈ list ∨ ∃ b, lookup key k list = some b ∧ a = f b := by
  induction list with
  | nil => cases mem
  | cons b rest ih =>
      rw [replace] at mem
      by_cases same : key b = k
      · rw [if_pos same] at mem
        cases mem with
        | head => exact .inr ⟨b, by rw [lookup_cons, if_pos same], rfl⟩
        | tail _ mem => exact .inl (List.mem_cons_of_mem _ mem)
      · rw [if_neg same] at mem
        cases mem with
        | head => exact .inl List.mem_cons_self
        | tail _ mem =>
            rcases ih mem with old | ⟨c, found, eq⟩
            · exact .inl (List.mem_cons_of_mem _ old)
            · exact .inr ⟨c, by rw [lookup_cons, if_neg same, found], eq⟩

theorem mem_replace_of_mem (mem : a ∈ list) :
    a ∈ replace key k f list ∨ f a ∈ replace key k f list := by
  induction list with
  | nil => cases mem
  | cons b rest ih =>
      rw [replace]
      by_cases same : key b = k
      · rw [if_pos same]
        cases mem with
        | head => exact .inr List.mem_cons_self
        | tail _ mem => exact .inl (List.mem_cons_of_mem _ mem)
      · rw [if_neg same]
        cases mem with
        | head => exact .inl List.mem_cons_self
        | tail _ mem =>
            have later := ih mem
            simp only [List.mem_cons]
            rcases later with old | new
            · exact .inl (.inr old)
            · exact .inr (.inr new)

section Visit

variable {β : Type} {visit : α → Option β} {done : List β} {b : β}

/-- Every entry in turn, where none may fail. -/
theorem mapM_cons_eq_some (all : (a :: list).mapM visit = some done) :
    ∃ b rest, visit a = some b ∧ list.mapM visit = some rest ∧ done = b :: rest := by
  rw [List.mapM_cons] at all
  cases first : visit a with
  | none => simp [first] at all
  | some b =>
      cases later : list.mapM visit with
      | none => simp [first, later] at all
      | some rest =>
          have whole : b :: rest = done := by simpa [first, later] using all
          exact ⟨b, rest, rfl, rfl, whole.symm⟩

theorem exists_of_mem_mapM (all : list.mapM visit = some done) (mem : b ∈ done) :
    ∃ a ∈ list, visit a = some b := by
  induction list generalizing done with
  | nil =>
      obtain rfl : [] = done := by simpa using all
      cases mem
  | cons a list ih =>
      obtain ⟨first, rest, visited, later, rfl⟩ := mapM_cons_eq_some all
      cases mem with
      | head => exact ⟨a, List.mem_cons_self, visited⟩
      | tail _ mem =>
          have ⟨found, old, eq⟩ := ih later mem
          exact ⟨found, List.mem_cons_of_mem _ old, eq⟩

theorem mem_mapM_of_mem (all : list.mapM visit = some done) (mem : a ∈ list) :
    ∃ b ∈ done, visit a = some b := by
  induction list generalizing done with
  | nil => cases mem
  | cons c list ih =>
      obtain ⟨first, rest, visited, later, rfl⟩ := mapM_cons_eq_some all
      cases mem with
      | head => exact ⟨first, List.mem_cons_self, visited⟩
      | tail _ mem =>
          have ⟨found, new, eq⟩ := ih later mem
          exact ⟨found, List.mem_cons_of_mem _ new, eq⟩

omit [DecidableEq K] in
theorem map_mapM {after : β → K} (all : list.mapM visit = some done)
    (kept : ∀ a ∈ list, ∀ b, visit a = some b → after b = key a) :
    done.map after = list.map key := by
  induction list generalizing done with
  | nil =>
      obtain rfl : [] = done := by simpa using all
      rfl
  | cons a list ih =>
      obtain ⟨first, rest, visited, later, rfl⟩ := mapM_cons_eq_some all
      have rest := ih later fun c mem => kept c (List.mem_cons_of_mem _ mem)
      rw [List.map_cons, List.map_cons, kept a List.mem_cons_self first visited, rest]

theorem exists_mapM (total : ∀ a ∈ list, ∃ b, visit a = some b) :
    ∃ done, list.mapM visit = some done := by
  induction list with
  | nil => exact ⟨[], by simp⟩
  | cons a list ih =>
      have ⟨b, visited⟩ := total a List.mem_cons_self
      have ⟨rest, later⟩ := ih fun c mem => total c (List.mem_cons_of_mem _ mem)
      exact ⟨b :: rest, by simp [List.mapM_cons, visited, later]⟩

end Visit

theorem lookup_filter {P : K → Bool} (passes : P k = true) :
    lookup key k (list.filter fun a => P (key a)) = lookup key k list := by
  induction list with
  | nil => rfl
  | cons b rest ih =>
      by_cases same : key b = k
      · rw [List.filter_cons, if_pos (by rw [same]; exact passes), lookup_cons, lookup_cons,
          if_pos same, if_pos same]
      · rw [lookup_cons, if_neg same, ← ih, List.filter_cons]
        by_cases left : P (key b) = true
        · rw [if_pos left, lookup_cons, if_neg same]
        · rw [if_neg left]

end KeyedList
