import Tecs.Library.ListIndex

set_option autoImplicit false

namespace Tecs

abbrev NameList := List String

/-- Which groups a member belongs to, and which members a group has. -/
structure MultiRelations where
  members : Std.TreeMap String NameList
  groups : Std.TreeMap String NameList

namespace MultiRelations

def empty : MultiRelations := ⟨∅, ∅⟩

def getMemberList (r : MultiRelations) (group : String) : Option NameList := r.groups[group]?

def getGroupList (r : MultiRelations) (member : String) : Option NameList := r.members[member]?

def hasGroup (r : MultiRelations) (group : String) : Bool := r.groups[group]?.isSome

def addMemberToGroup (r : MultiRelations) (member group : String) : MultiRelations where
  groups := ListIndex.add r.groups group member
  members := ListIndex.add r.members member group

def delMemberFromGroup (r : MultiRelations) (member group : String) : MultiRelations where
  groups := ListIndex.remove r.groups group member
  members := ListIndex.remove r.members member group

/-- The list is copied before the loop that empties it. -/
def deleteMember (r : MultiRelations) (member : String) : MultiRelations :=
  match r.getGroupList member with
  | none => r
  | some grouplist => grouplist.foldl (fun r group => r.delMemberFromGroup member group) r

def deleteGroup (r : MultiRelations) (group : String) : MultiRelations :=
  match r.getMemberList group with
  | none => r
  | some memberlist => memberlist.foldl (fun r member => r.delMemberFromGroup member group) r

inductive Operation
  | addMemberToGroup (member group : String)
  | delMemberFromGroup (member group : String)
  | deleteMember (member : String)
  | deleteGroup (group : String)

def apply (r : MultiRelations) : Operation → MultiRelations
  | .addMemberToGroup member group => r.addMemberToGroup member group
  | .delMemberFromGroup member group => r.delMemberFromGroup member group
  | .deleteMember member => r.deleteMember member
  | .deleteGroup group => r.deleteGroup group

/-- The relation the two maps are to represent, and what each operation is to make of it. -/
def Operation.effect (related : String → String → Prop) : Operation → String → String → Prop
  | .addMemberToGroup member group => fun m g => related m g ∨ (m = member ∧ g = group)
  | .delMemberFromGroup member group => fun m g => related m g ∧ ¬ (m = member ∧ g = group)
  | .deleteMember member => fun m g => related m g ∧ m ≠ member
  | .deleteGroup group => fun m g => related m g ∧ g ≠ group

/-- Both maps list the pairs of the relation, neatly. -/
structure Represents (r : MultiRelations) (related : String → String → Prop) : Prop where
  members : ∀ member group, group ∈ ListIndex.listed r.members member ↔ related member group
  groups : ∀ member group, member ∈ ListIndex.listed r.groups group ↔ related member group
  tidyMembers : ListIndex.Tidy r.members
  tidyGroups : ListIndex.Tidy r.groups

theorem empty_represents : Represents empty fun _ _ => False := by
  refine ⟨?_, ?_, ListIndex.tidy_empty, ListIndex.tidy_empty⟩ <;>
    simp [empty, ListIndex.listed]

section Operations

variable {r : MultiRelations} {related : String → String → Prop}

theorem Represents.congr {related' : String → String → Prop} (holds : Represents r related)
    (same : ∀ m g, related m g ↔ related' m g) : Represents r related' :=
  ⟨fun m g => (holds.members m g).trans (same m g), fun m g => (holds.groups m g).trans (same m g),
    holds.tidyMembers, holds.tidyGroups⟩

theorem Represents.add (holds : Represents r related) (member group : String) :
    Represents (r.addMemberToGroup member group)
      fun m g => related m g ∨ (m = member ∧ g = group) := by
  refine ⟨?_, ?_, holds.tidyMembers.add member group, holds.tidyGroups.add group member⟩
  · intro m g
    rw [addMemberToGroup, ListIndex.mem_listed_add, holds.members]
  · intro m g
    rw [addMemberToGroup, ListIndex.mem_listed_add, holds.groups, and_comm]

theorem Represents.del (holds : Represents r related) (member group : String) :
    Represents (r.delMemberFromGroup member group)
      fun m g => related m g ∧ ¬ (m = member ∧ g = group) := by
  refine ⟨?_, ?_, holds.tidyMembers.remove member group, holds.tidyGroups.remove group member⟩
  · intro m g
    rw [delMemberFromGroup, ListIndex.mem_listed_remove holds.tidyMembers, holds.members]
  · intro m g
    rw [delMemberFromGroup, ListIndex.mem_listed_remove holds.tidyGroups, holds.groups,
      and_comm (a := g = group)]

/-- The loop over the groups takes the member out of each of them. -/
theorem Represents.del_groups (member : String) (list : NameList) :
    ∀ {r : MultiRelations} {related : String → String → Prop}, Represents r related →
      Represents (list.foldl (fun r group => r.delMemberFromGroup member group) r)
        fun m g => related m g ∧ ¬ (m = member ∧ g ∈ list) := by
  induction list with
  | nil =>
      intro r related holds
      exact holds.congr (by simp)
  | cons group rest ih =>
      intro r related holds
      refine (ih (holds.del member group)).congr fun m g => ?_
      rw [List.mem_cons]
      tauto

theorem Represents.del_members (group : String) (list : NameList) :
    ∀ {r : MultiRelations} {related : String → String → Prop}, Represents r related →
      Represents (list.foldl (fun r member => r.delMemberFromGroup member group) r)
        fun m g => related m g ∧ ¬ (m ∈ list ∧ g = group) := by
  induction list with
  | nil =>
      intro r related holds
      exact holds.congr (by simp)
  | cons member rest ih =>
      intro r related holds
      refine (ih (holds.del member group)).congr fun m g => ?_
      rw [List.mem_cons]
      tauto

theorem Represents.deleteMember (holds : Represents r related) (member : String) :
    Represents (r.deleteMember member) fun m g => related m g ∧ m ≠ member := by
  have listed := holds.members member
  cases stored : r.members[member]? with
  | none =>
      have result : r.deleteMember member = r := by
        simp only [MultiRelations.deleteMember, getGroupList, stored]
      rw [result]
      refine holds.congr fun m g => ⟨fun pair => ⟨pair, ?_⟩, And.left⟩
      rintro rfl
      simpa [ListIndex.listed, stored] using (listed g).mpr pair
  | some grouplist =>
      have result : r.deleteMember member =
          grouplist.foldl (fun r group => r.delMemberFromGroup member group) r := by
        simp only [MultiRelations.deleteMember, getGroupList, stored]
      rw [ListIndex.listed_of_getElem? stored] at listed
      rw [result]
      refine (holds.del_groups member grouplist).congr fun m g => ?_
      rw [listed]
      constructor
      · rintro ⟨pair, kept⟩
        exact ⟨pair, fun same => kept ⟨same, same ▸ pair⟩⟩
      · rintro ⟨pair, other⟩
        exact ⟨pair, fun both => other both.1⟩

theorem Represents.deleteGroup (holds : Represents r related) (group : String) :
    Represents (r.deleteGroup group) fun m g => related m g ∧ g ≠ group := by
  have listed := fun member => holds.groups member group
  cases stored : r.groups[group]? with
  | none =>
      have result : r.deleteGroup group = r := by
        simp only [MultiRelations.deleteGroup, getMemberList, stored]
      rw [result]
      refine holds.congr fun m g => ⟨fun pair => ⟨pair, ?_⟩, And.left⟩
      rintro rfl
      simpa [ListIndex.listed, stored] using (listed m).mpr pair
  | some memberlist =>
      have result : r.deleteGroup group =
          memberlist.foldl (fun r member => r.delMemberFromGroup member group) r := by
        simp only [MultiRelations.deleteGroup, getMemberList, stored]
      rw [ListIndex.listed_of_getElem? stored] at listed
      rw [result]
      refine (holds.del_members group memberlist).congr fun m g => ?_
      rw [listed]
      constructor
      · rintro ⟨pair, kept⟩
        exact ⟨pair, fun same => kept ⟨same ▸ pair, same⟩⟩
      · rintro ⟨pair, other⟩
        exact ⟨pair, fun both => other both.2⟩

/-- The maps follow the relation through every operation. -/
theorem Represents.apply (holds : Represents r related) (operation : Operation) :
    Represents (r.apply operation) (operation.effect related) := by
  cases operation with
  | addMemberToGroup member group => exact holds.add member group
  | delMemberFromGroup member group => exact holds.del member group
  | deleteMember member => exact holds.deleteMember member
  | deleteGroup group => exact holds.deleteGroup group

end Operations

theorem foldl_represents (operations : List Operation) :
    ∀ {r : MultiRelations} {related : String → String → Prop}, Represents r related →
      Represents (operations.foldl apply r) (operations.foldl (fun s o => o.effect s) related) := by
  induction operations with
  | nil => exact fun holds => holds
  | cons operation rest ih => exact fun holds => ih (holds.apply operation)

/-- A group is listed for a member exactly if the member is listed for the group, no list
repeats a name, and no name keeps an empty list. -/
theorem relations_inverse (operations : List Operation) :
    let r := operations.foldl apply empty
    (∀ member group, (∃ found, r.getGroupList member = some found ∧ group ∈ found) ↔
      ∃ found, r.getMemberList group = some found ∧ member ∈ found) ∧
    (∀ member found, r.getGroupList member = some found → found ≠ [] ∧ found.Nodup) ∧
    ∀ group found, r.getMemberList group = some found → found ≠ [] ∧ found.Nodup := by
  intro r
  have holds := foldl_represents operations empty_represents
  have read : ∀ (index : Std.TreeMap String NameList) (key name : String),
      (∃ found, index[key]? = some found ∧ name ∈ found) ↔ name ∈ ListIndex.listed index key := by
    intro index key name
    cases stored : index[key]? with
    | none => simp [ListIndex.listed, stored]
    | some found => simp [ListIndex.listed, stored]
  refine ⟨?_, holds.tidyMembers, holds.tidyGroups⟩
  intro member group
  exact (read r.members member group).trans
    ((holds.members member group).trans ((holds.groups member group).symm.trans
      (read r.groups group member).symm))

end MultiRelations

end Tecs
