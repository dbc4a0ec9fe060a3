import Mathlib

set_option autoImplicit false

/-! Items put into buckets one after the other, each into the first bucket that takes it. -/

namespace Buckets

variable {Item Bucket Key : Type}

/-- The first bucket that takes the item gets it, and where none does a new one is opened. -/
def put (takes : Bucket → Prop) [DecidablePred takes] (join : Bucket → Bucket)
    (opened : Bucket) : List Bucket → List Bucket
  | [] => [opened]
  | bucket :: rest =>
      if takes bucket then join bucket :: rest else bucket :: put takes join opened rest

/-- The buckets of a list of items hold, each under its own key, the items of that key. -/
structure Filled [DecidableEq Key] (key : Item → Key) (keyOf : Bucket → Key)
    (Holds : List Item → Bucket → Prop) (items : List Item) (buckets : List Bucket) : Prop where
  apart : (buckets.map keyOf).Nodup
  whole : ∀ item ∈ items, ∃ bucket ∈ buckets, keyOf bucket = key item
  holds : ∀ bucket ∈ buckets, Holds (items.filter (key · = keyOf bucket)) bucket
  occupied : ∀ bucket ∈ buckets, ∃ item ∈ items, key item = keyOf bucket

section Keys

variable {takes : Bucket → Prop} [DecidablePred takes] {join : Bucket → Bucket} {opened : Bucket}
  {keyOf : Bucket → Key} {k : Key} {buckets : List Bucket}

theorem keys_put [DecidableEq Key] (byKey : ∀ bucket ∈ buckets, takes bucket ↔ keyOf bucket = k)
    (joined : ∀ bucket, keyOf (join bucket) = keyOf bucket) (new : keyOf opened = k) :
    (put takes join opened buckets).map keyOf =
      if k ∈ buckets.map keyOf then buckets.map keyOf else buckets.map keyOf ++ [k] := by
  induction buckets with
  | nil => simp [put, new]
  | cons bucket rest ih =>
      rw [List.forall_mem_cons] at byKey
      rw [put]
      by_cases taken : takes bucket
      · have same := byKey.1.mp taken
        rw [if_pos taken, List.map_cons, joined, ← same, if_pos (by simp), List.map_cons]
      · have apart : ¬ k = keyOf bucket := fun same => taken (byKey.1.mpr same.symm)
        rw [if_neg taken, List.map_cons, ih byKey.2]
        simp only [List.map_cons, List.mem_cons, apart, false_or]
        split <;> rfl

/-- What a bucket is after an item: as before and of another key, or the one that took it, or
opened for it. -/
theorem mem_put {bucket : Bucket}
    (byKey : ∀ bucket ∈ buckets, takes bucket ↔ keyOf bucket = k)
    (apart : (buckets.map keyOf).Nodup)
    (member : bucket ∈ put takes join opened buckets) :
    (bucket ∈ buckets ∧ keyOf bucket ≠ k) ∨
      (∃ old ∈ buckets, keyOf old = k ∧ bucket = join old) ∨
      (bucket = opened ∧ ∀ old ∈ buckets, keyOf old ≠ k) := by
  induction buckets with
  | nil =>
      rw [put, List.mem_singleton] at member
      exact Or.inr (Or.inr ⟨member, fun old none => nomatch none⟩)
  | cons first rest ih =>
      rw [List.forall_mem_cons] at byKey
      rw [List.map_cons, List.nodup_cons] at apart
      rw [put] at member
      by_cases taken : takes first
      · have same := byKey.1.mp taken
        rw [if_pos taken, List.mem_cons] at member
        cases member with
        | inl here => exact Or.inr (Or.inl ⟨first, List.mem_cons_self, same, here⟩)
        | inr later =>
            refine Or.inl ⟨List.mem_cons_of_mem first later, fun again => apart.1 ?_⟩
            rw [same, ← again]
            exact List.mem_map_of_mem later
      · have other : keyOf first ≠ k := fun same => taken (byKey.1.mpr same)
        rw [if_neg taken, List.mem_cons] at member
        cases member with
        | inl here =>
            subst here
            exact Or.inl ⟨List.mem_cons_self, other⟩
        | inr later =>
            rcases ih byKey.2 apart.2 later with kept | ⟨old, present, same, joined⟩ | ⟨new, none⟩
            · exact Or.inl ⟨List.mem_cons_of_mem first kept.1, kept.2⟩
            · exact Or.inr (Or.inl ⟨old, List.mem_cons_of_mem first present, same, joined⟩)
            · exact Or.inr (Or.inr ⟨new, List.forall_mem_cons.mpr ⟨other, none⟩⟩)

end Keys

section Filling

variable [DecidableEq Key] {key : Item → Key} {keyOf : Bucket → Key}
  {Holds : List Item → Bucket → Prop}

theorem filled_nil : Filled key keyOf Holds [] [] where
  apart := List.nodup_nil
  whole := fun _ none => nomatch none
  holds := fun _ none => nomatch none
  occupied := fun _ none => nomatch none

variable {takes : Bucket → Prop} [DecidablePred takes] {join : Bucket → Bucket} {opened : Bucket}
  {items : List Item} {item : Item} {buckets : List Bucket}

theorem filter_append_other {bucket : Bucket} (other : keyOf bucket ≠ key item) :
    (items ++ [item]).filter (key · = keyOf bucket) = items.filter (key · = keyOf bucket) := by
  rw [List.filter_append]
  simp [Ne.symm other]

theorem filter_append_same {k : Key} (same : key item = k) :
    (items ++ [item]).filter (key · = k) = items.filter (key · = k) ++ [item] := by
  rw [List.filter_append]
  simp [same]

/-- The step of a filling. -/
theorem Filled.put (filled : Filled key keyOf Holds items buckets)
    (byKey : ∀ bucket ∈ buckets, takes bucket ↔ keyOf bucket = key item)
    (joined : ∀ bucket, keyOf (join bucket) = keyOf bucket) (new : keyOf opened = key item)
    (begun : Holds [item] opened)
    (grown : ∀ held bucket, Holds held bucket → keyOf bucket = key item →
      Holds (held ++ [item]) (join bucket)) :
    Filled key keyOf Holds (items ++ [item]) (put takes join opened buckets) := by
  have keys := keys_put byKey joined new
  have inKeys : ∀ k, k ∈ (Buckets.put takes join opened buckets).map keyOf ↔
      k ∈ buckets.map keyOf ∨ k = key item := by
    intro k
    rw [keys]
    split
    · rename_i present
      constructor
      · exact Or.inl
      · rintro (old | same)
        · exact old
        · exact same ▸ present
    · rw [List.mem_append, List.mem_singleton]
  refine ⟨?_, ?_, ?_, ?_⟩
  · rw [keys]
    split
    · exact filled.apart
    · rename_i absent
      exact List.nodup_append.mpr ⟨filled.apart, List.nodup_singleton _, fun a left b right => by
        rw [List.mem_singleton] at right
        exact fun same => absent (right ▸ same ▸ left)⟩
  · intro other present
    apply List.mem_map.mp
    rw [inKeys]
    rw [List.mem_append, List.mem_singleton] at present
    cases present with
    | inl old => exact Or.inl (List.mem_map.mpr (filled.whole other old))
    | inr same => exact Or.inr (congrArg key same)
  · intro bucket member
    rcases mem_put byKey filled.apart member with ⟨kept, other⟩ | ⟨old, present, same, rfl⟩ |
      ⟨rfl, none⟩
    · rw [filter_append_other other]
      exact filled.holds bucket kept
    · rw [filter_append_same ((joined old).trans same).symm, joined]
      exact grown _ old (filled.holds old present) same
    · have empty : items.filter (key · = keyOf bucket) = [] := by
        apply List.filter_eq_nil_iff.mpr
        intro other present
        obtain ⟨found, there, same⟩ := filled.whole other present
        rw [decide_eq_true_eq, new]
        exact fun again => none found there (same.trans again)
      rw [filter_append_same new.symm, empty, List.nil_append]
      exact begun
  · intro bucket member
    have keyed : keyOf bucket ∈ buckets.map keyOf ∨ keyOf bucket = key item :=
      (inKeys _).mp (List.mem_map_of_mem member)
    cases keyed with
    | inl old =>
        obtain ⟨found, there, same⟩ := List.mem_map.mp old
        obtain ⟨other, present, equal⟩ := filled.occupied found there
        exact ⟨other, List.mem_append_left _ present, equal.trans same⟩
    | inr same =>
        exact ⟨item, List.mem_append_right _ (List.mem_singleton_self item), same.symm⟩

/-- What is held under different keys is held once. -/
theorem perm_keys {keys : List Key} (nodup : keys.Nodup) :
    (keys.flatMap fun k => items.filter (key · = k)).Perm
      (items.filter fun item => key item ∈ keys) := by
  induction keys with
  | nil => simp
  | cons k rest ih =>
      rw [List.nodup_cons] at nodup
      have split := List.filter_append_perm (fun item => decide (key item = k))
        (items.filter fun item => key item ∈ k :: rest)
      have first : (items.filter fun item => key item ∈ k :: rest).filter
          (fun item => decide (key item = k)) = items.filter (key · = k) := by
        rw [List.filter_filter]
        apply List.filter_congr
        intro item _
        by_cases same : key item = k <;> simp [same]
      have second : (items.filter fun item => key item ∈ k :: rest).filter
          (fun item => !decide (key item = k)) = items.filter fun item => key item ∈ rest := by
        rw [List.filter_filter]
        apply List.filter_congr
        intro item _
        by_cases same : key item = k
        · simp [same, nodup.1]
        · simp [same]
      rw [first, second] at split
      rw [List.flatMap_cons]
      exact ((ih nodup.2).append_left _).trans split

/-- The buckets hold the items, each of them once. -/
theorem Filled.perm (filled : Filled key keyOf Holds items buckets) :
    (buckets.flatMap fun bucket => items.filter (key · = keyOf bucket)).Perm items := by
  have all : items.filter (fun item => key item ∈ buckets.map keyOf) = items := by
    apply List.filter_eq_self.mpr
    intro item member
    obtain ⟨bucket, there, same⟩ := filled.whole item member
    exact decide_eq_true (same ▸ List.mem_map_of_mem there)
  have keys := @perm_keys Item Key _ key items _ filled.apart
  rw [List.flatMap_map, all] at keys
  exact keys

end Filling

end Buckets
