import Tecs.Vnm.ScheduleServe

set_option autoImplicit false

/-! The groups of one kind after each other, and the switches without SR-IOV for all of them. -/

namespace Tecs.VnmSchedule

section Kinds

variable {rule : RowRule} {p : CDbSchedule → Prop} {free : ℕ} {t : String} {isLoop : Bool}
  {groups : List CReqNumInfo} {start alloc result : Alloc}
  {vecDBUpdate : List CDbSchedule}

/-- The vNICs of the groups are asked for once. -/
structure Disjoint (start : Alloc) (groups : List CReqNumInfo) : Prop where
  nodup : (groups.flatMap CReqNumInfo.setVnicIter).Nodup
  fresh : ∀ group ∈ groups, ∀ nic ∈ group.setVnicIter, nic ∉ start.granted
  number : ∀ group ∈ groups, group.nSourceNum = group.setVnicIter.length

/-- The rows of a group as they come from the inventory. -/
def Read (p : CDbSchedule → Prop) (group : CReqNumInfo) : Prop :=
  ∀ row ∈ group.vecSchResult, p row ∧ row.switchUuid ≠ ""

/-- Each vNIC of the group was given a switch of the group's rows. -/
def CReqNumInfo.Served (group : CReqNumInfo) (alloc : Alloc) : Prop :=
  ∀ nic ∈ group.setVnicIter, ∃ grant ∈ alloc.given, grant.nic = nic ∧
    ∃ row ∈ group.vecSchResult, row.switchUuid = grant.switchUuid

theorem CReqNumInfo.Served.mono {group : CReqNumInfo} (served : group.Served alloc)
    (grows : alloc.given <+: result.given) : group.Served result := by
  intro nic member
  obtain ⟨grant, given, rest⟩ := served nic member
  exact ⟨grant, grows.subset given, rest⟩

/-- What comes of the groups of one kind. -/
structure KindResult (groups : List CReqNumInfo) (start result : Alloc) : Prop where
  good : result.Good
  grows : start.given <+: result.given
  own : ∀ grant ∈ result.given, grant ∈ start.given ∨
    ∃ group ∈ groups, grant.nic ∈ group.setVnicIter ∧
      ∃ row ∈ group.vecSchResult, row.switchUuid = grant.switchUuid
  served : ∀ group ∈ groups, group.Served result
  untouched : ∀ nic, nic ∉ result.granted → result.vSwitchUuid nic = start.vSwitchUuid nic

theorem kindResult_nil (good : start.Good) : KindResult [] start start :=
  ⟨good, List.prefix_refl _, fun _ => Or.inl, fun _ => (nomatch ·), fun _ _ => rfl⟩

variable {group : CReqNumInfo} {rest : List CReqNumInfo}

theorem KindResult.cons
    (first : start.InGroup group.setVnicIter group.vecSchResult alloc)
    (served : group.Served alloc) (later : KindResult rest alloc result) :
    KindResult (group :: rest) start result where
  good := later.good
  grows := first.grows.trans later.grows
  own := by
    intro grant given
    rcases later.own grant given with old | ⟨other, member, found⟩
    · refine (first.own grant old).imp id fun new => ?_
      exact ⟨group, List.mem_cons_self, new⟩
    · exact Or.inr ⟨other, List.mem_cons_of_mem group member, found⟩
  served := by
    rw [List.forall_mem_cons]
    exact ⟨served.mono later.grows, later.served⟩
  untouched := by
    intro nic none
    have earlier : nic ∉ alloc.granted := fun granted =>
      none ((later.grows.map Grant.nic).subset granted)
    exact (later.untouched nic none).trans (first.untouched nic earlier)

theorem Disjoint.head (disjoint : Disjoint start (group :: rest)) :
    group.setVnicIter.Nodup ∧ ∀ nic ∈ group.setVnicIter, nic ∉ start.granted := by
  have nodup := disjoint.nodup
  rw [List.flatMap_cons, List.nodup_append] at nodup
  exact ⟨nodup.1, disjoint.fresh group List.mem_cons_self⟩

theorem Disjoint.tail (disjoint : Disjoint start (group :: rest))
    (first : start.InGroup group.setVnicIter group.vecSchResult alloc) :
    Disjoint alloc rest := by
  have nodup := disjoint.nodup
  rw [List.flatMap_cons, List.nodup_append] at nodup
  refine ⟨nodup.2.1, ?_, fun other member =>
    disjoint.number other (List.mem_cons_of_mem group member)⟩
  intro other member nic inside granted
  obtain ⟨grant, given, rfl⟩ := List.mem_map.mp granted
  rcases first.own grant given with old | new
  · exact disjoint.fresh other (List.mem_cons_of_mem group member) _ inside
      (List.mem_map_of_mem old)
  · exact nodup.2.2 _ new.1 _ (List.mem_flatMap.mpr ⟨other, member, inside⟩) rfl

theorem progress_begin (good : start.Good) (disjoint : Disjoint start (group :: rest))
    (update : ∀ u ∈ vecDBUpdate, p u) :
    (⟨start, vecDBUpdate, group.nSourceNum⟩ : Progress).Inv p group.setVnicIter
      group.vecSchResult start := by
  refine ⟨good.inGroup, ?_, update⟩
  have all : start.waiting group.setVnicIter = group.setVnicIter := by
    rw [Alloc.waiting, List.filter_eq_self]
    intro nic member
    exact decide_eq_true (disjoint.head.2 nic member)
  rw [all]
  exact disjoint.number group List.mem_cons_self

theorem usable_merged (merges : Merges p) (read : Read p group)
    (update : ∀ u ∈ vecDBUpdate, p u) :
    ∀ row ∈ mergeAllocDBResult group.vecSchResult vecDBUpdate,
      Usable p group.vecSchResult row := by
  intro row member
  have keeps := merges.mergeAll (fun old inside => (read old inside).1) update row member
  obtain ⟨old, inside, rfl⟩ := List.mem_map.mp member
  have switch := (sameKeys_mergeRow old vecDBUpdate).switchUuid
  exact ⟨keeps, switch ▸ (read old inside).2, old, inside, switch.symm⟩

theorem single_merged (rows vecDBUpdate : List CDbSchedule) (t : String) :
    ((mergeAllocDBResult rows vecDBUpdate).filter fun row => row.switchUuid = t).length =
      (rows.filter fun row => row.switchUuid = t).length := by
  rw [mergeAllocDBResult, List.filter_map, List.length_map]
  congr 1
  apply List.filter_congr
  intro row _
  rw [Function.comp_apply, (sameKeys_mergeRow row vecDBUpdate).switchUuid]

/-- A group for which nobody is left waiting is served. -/
theorem Alloc.InGroup.servedAll
    (inGroup : start.InGroup group.setVnicIter group.vecSchResult alloc)
    (disjoint : Disjoint start (group :: rest)) {left : ℤ}
    (count : left = (alloc.waiting group.setVnicIter).length) (done : left = 0) :
    group.Served alloc := by
  rw [done] at count
  have none : alloc.waiting group.setVnicIter = [] :=
    List.eq_nil_of_length_eq_zero (Int.ofNat_eq_zero.mp count.symm)
  exact fun nic member => inGroup.served member (disjoint.head.2 nic member) none

/-- Who is granted in an earlier allocation keeps the switch. -/
theorem switch_kept {nic : ℕ} (before : alloc.Good) (after : result.Good)
    (grows : alloc.given <+: result.given) (granted : nic ∈ alloc.granted) :
    result.vSwitchUuid nic = alloc.vSwitchUuid nic := by
  obtain ⟨grant, given, rfl⟩ := List.mem_map.mp granted
  rw [(before.set grant given).1, (after.set grant (grows.subset given)).1]

theorem CReqNumInfo.OneSwitch.mono (one : group.OneSwitch alloc) (served : group.Served alloc)
    (before : alloc.Good) (after : result.Good) (grows : alloc.given <+: result.given) :
    group.OneSwitch result := by
  obtain ⟨name, deployed, same⟩ := one
  refine ⟨name, deployed, ?_⟩
  intro nic member _
  have granted : nic ∈ alloc.granted := by
    obtain ⟨grant, given, named, -⟩ := served nic member
    exact named ▸ List.mem_map_of_mem given
  rw [switch_kept before after grows granted]
  exact same nic member granted

/-- A switch without a row for any of the groups is given to nobody. -/
theorem KindResult.used_other {t : String} (kind : KindResult groups start result)
    (other : ∀ group ∈ groups, ∀ row ∈ group.vecSchResult, row.switchUuid ≠ t) :
    result.used t = start.used t := by
  refine used_grows kind.grows kind.good.once fun grant given => ?_
  refine (kind.own grant given).imp id ?_
  rintro ⟨group, member, -, row, listed, same⟩
  exact same ▸ other group member row listed

variable {more : List CReqNumInfo}

/-- Two kinds after each other. -/
theorem KindResult.append (first : KindResult groups start alloc)
    (second : KindResult more alloc result) : KindResult (groups ++ more) start result where
  good := second.good
  grows := first.grows.trans second.grows
  own := by
    intro grant given
    rcases second.own grant given with old | ⟨group, member, found⟩
    · refine (first.own grant old).imp id fun ⟨group, member, found⟩ => ?_
      exact ⟨group, List.mem_append_left more member, found⟩
    · exact Or.inr ⟨group, List.mem_append_right groups member, found⟩
  served := by
    rw [List.forall_mem_append]
    exact ⟨fun group member => (first.served group member).mono second.grows, second.served⟩
  untouched := by
    intro nic none
    have earlier : nic ∉ alloc.granted := fun granted =>
      none ((second.grows.map Grant.nic).subset granted)
    exact (second.untouched nic none).trans (first.untouched nic earlier)

theorem Disjoint.left (disjoint : Disjoint start (groups ++ more)) : Disjoint start groups where
  nodup := by
    have nodup := disjoint.nodup
    rw [List.flatMap_append] at nodup
    exact (List.nodup_append.mp nodup).1
  fresh group member := disjoint.fresh group (List.mem_append_left more member)
  number group member := disjoint.number group (List.mem_append_left more member)

theorem KindResult.disjoint (first : KindResult groups start alloc)
    (disjoint : Disjoint start (groups ++ more)) : Disjoint alloc more := by
  have nodup := disjoint.nodup
  rw [List.flatMap_append] at nodup
  have apart := List.nodup_append.mp nodup
  refine ⟨apart.2.1, ?_, fun group member =>
    disjoint.number group (List.mem_append_right groups member)⟩
  intro group member nic inside granted
  obtain ⟨grant, given, rfl⟩ := List.mem_map.mp granted
  rcases first.own grant given with old | ⟨other, listed, found, -⟩
  · exact disjoint.fresh group (List.mem_append_right groups member) _ inside
      (List.mem_map_of_mem old)
  · exact apart.2.2 _ (List.mem_flatMap.mpr ⟨other, listed, found⟩) _
      (List.mem_flatMap.mpr ⟨group, member, inside⟩) rfl

theorem sdvsGroups_cons (done : sdvsGroups isLoop (group :: rest) alloc vecDBUpdate = .ok result) :
    ∃ pr, pr = serveRows sdvsRule isLoop group
        (mergeAllocDBResult group.vecSchResult vecDBUpdate)
        ⟨alloc, vecDBUpdate, group.nSourceNum⟩ ∧ pr.left = 0 ∧
      sdvsGroups isLoop rest pr.alloc pr.vecDBUpdate = .ok result := by
  refine ⟨_, rfl, ?_⟩
  rw [sdvsGroups] at done
  split at done
  · cases done
  · rename_i left
    exact ⟨not_not.mp left, done⟩

/-- The rows that are served for all groups of a kind. -/
def sdvsOffers (isLoop : Bool) : List CReqNumInfo → Alloc → List CDbSchedule → List Offer
  | [], _, _ => []
  | group :: groups, alloc, vecDBUpdate =>
      let rows := mergeAllocDBResult group.vecSchResult vecDBUpdate
      let pr : Progress := ⟨alloc, vecDBUpdate, group.nSourceNum⟩
      let served := serveRows sdvsRule isLoop group rows pr
      rowOffers sdvsRule isLoop group rows pr ++
        sdvsOffers isLoop groups served.alloc served.vecDBUpdate

/-- What the switches without SR-IOV come to, over all groups of a kind. -/
theorem sdvsGroups_result (good : start.Good) (disjoint : Disjoint start groups)
    (read : ∀ group ∈ groups, Read CDbSchedule.Whole group)
    (update : ∀ u ∈ vecDBUpdate, u.Whole)
    (done : sdvsGroups isLoop groups start vecDBUpdate = .ok result) :
    KindResult groups start result ∧
      (isLoop = true → ∀ group ∈ groups, group.OneSwitch result) := by
  induction groups generalizing start vecDBUpdate with
  | nil =>
      cases done
      exact ⟨kindResult_nil good, fun _ _ => (nomatch ·)⟩
  | cons group rest ih =>
      rw [List.forall_mem_cons] at read
      obtain ⟨pr, served, left, later⟩ := sdvsGroups_cons done
      have usable := usable_merged merges_whole read.1 update
      have begun := progress_begin good disjoint update
      have inv := @serveRows_inv sdvsRule _ isLoop group start _ _ _ sdvsRule_lawful
        disjoint.head.1 usable begun
      rw [← served] at inv
      have first := inv.group.servedAll disjoint inv.left left
      obtain ⟨result, loops⟩ := ih inv.group.good (disjoint.tail inv.group) read.2 inv.update later
      refine ⟨result.cons inv.group first, fun loop => ?_⟩
      have one := serveRows_loop loop sdvsRule_lawful usable begun disjoint.head.2
      rw [← served] at one
      rw [List.forall_mem_cons]
      exact ⟨one.mono first inv.group.good result.good result.grows, loops loop⟩

/-- The switches that are named by one row of each group are not given to too many. -/
theorem sdvsGroups_tracks (good : start.Good) (disjoint : Disjoint start groups)
    (read : ∀ group ∈ groups, Read CDbSchedule.Whole group)
    (update : ∀ u ∈ vecDBUpdate, u.Whole)
    (single : isLoop = true ∨ ∀ group ∈ groups,
      (group.vecSchResult.filter fun row => row.switchUuid = t).length ≤ 1)
    (numbers : ∀ group ∈ groups, ∀ row ∈ group.vecSchResult, row.switchUuid = t →
      sdvsRule.free row = free)
    (tracks : Tracks sdvsRule free t start vecDBUpdate)
    (done : sdvsGroups isLoop groups start vecDBUpdate = .ok result) :
    result.used t ≤ free := by
  induction groups generalizing start vecDBUpdate with
  | nil =>
      cases done
      exact tracks.bound
  | cons group rest ih =>
      rw [List.forall_mem_cons] at read numbers single
      obtain ⟨pr, served, left, later⟩ := sdvsGroups_cons done
      have usable := usable_merged merges_whole read.1 update
      have begun := progress_begin good disjoint update
      have inv := @serveRows_inv sdvsRule _ isLoop group start _ _ _ sdvsRule_lawful
        disjoint.head.1 usable begun
      have kept := serveRows_tracks sdvsRule_lawful disjoint.head.1 usable begun
        (single.imp id fun few => single_merged group.vecSchResult vecDBUpdate t ▸ few.1)
        tracks (tracks.merged sdvsRule_lawful numbers.1)
      rw [← served] at inv kept
      exact ih inv.group.good (disjoint.tail inv.group) read.2 inv.update
        (single.imp id And.right) numbers.2 kept later

/-- A switch is not overdrawn if and only if all its rows were backed. -/
theorem sdvsGroups_used (disjoint : Disjoint start groups) (good : start.Good)
    (read : ∀ group ∈ groups, Read CDbSchedule.Whole group)
    (update : ∀ u ∈ vecDBUpdate, u.Whole)
    (done : sdvsGroups isLoop groups start vecDBUpdate = .ok result) :
    result.used t ≤ free ↔ start.used t ≤ free ∧
      ∀ offer ∈ sdvsOffers isLoop groups start vecDBUpdate,
        offer.row.switchUuid = t → offer.Backed sdvsRule free := by
  induction groups generalizing start vecDBUpdate with
  | nil =>
      cases done
      simp [sdvsOffers]
  | cons group rest ih =>
      rw [List.forall_mem_cons] at read
      obtain ⟨pr, served, -, later⟩ := sdvsGroups_cons done
      have usable := usable_merged merges_whole read.1 update
      have inv := @serveRows_inv sdvsRule _ isLoop group start _ _ _ sdvsRule_lawful
        disjoint.head.1 usable (progress_begin good disjoint update)
      have first := @serveRows_used sdvsRule _ free t isLoop group _ _
        ⟨start, vecDBUpdate, group.nSourceNum⟩ sdvsRule_lawful disjoint.head.1 usable
      rw [← served] at inv first
      rw [ih (disjoint.tail inv.group) inv.group.good read.2 inv.update later, first, and_assoc,
        sdvsOffers, List.forall_mem_append, ← served]

/-- No port of a bond is given without SR-IOV. -/
theorem sdvsGroups_ports (q : String)
    (done : sdvsGroups isLoop groups start vecDBUpdate = .ok result) :
    result.usedPort q = start.usedPort q := by
  induction groups generalizing start vecDBUpdate with
  | nil =>
      cases done
      rfl
  | cons group rest ih =>
      obtain ⟨pr, served, -, later⟩ := sdvsGroups_cons done
      have same : pr.alloc.usedPort q = start.usedPort q := by
        rw [served]
        refine @serveRows_keeps sdvsRule isLoop group _ _
          (fun pr => pr.alloc.usedPort q = start.usedPort q) ?_ rfl
        intro row _ pr kept
        refine @serveRow_keeps sdvsRule group.setVnicIter (pr.serving row)
          (fun s => s.alloc.usedPort q = start.usedPort q) ?_ kept
        intro s nic _ before _ _
        rw [usedPort_serving]
        exact before
      exact (ih later).trans same

end Kinds

end Tecs.VnmSchedule
