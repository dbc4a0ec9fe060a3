import Tecs.Vnm.ScheduleAlloc

set_option autoImplicit false

/-! The rows of a schedule as a ledger: what merging and updating them keeps, and what the vNICs
that were given switches add up to. -/

namespace Tecs.VnmSchedule

section Rows

variable {old row new c : CDbSchedule} {news : List CDbSchedule}

/-- What a row is about, which no merge changes. -/
structure SameKeys (row old : CDbSchedule) : Prop where
  isBondNic : row.isBondNic = old.isBondNic
  switchUuid : row.switchUuid = old.switchUuid
  bondPhyPortUuid : row.bondPhyPortUuid = old.bondPhyPortUuid

theorem sameKeys_mergeRow (old : CDbSchedule) (news : List CDbSchedule) :
    SameKeys (mergeRow old news) old := by
  induction news generalizing old with
  | nil => exact ⟨rfl, rfl, rfl⟩
  | cons new rest ih =>
      rw [mergeRow]
      split
      · split
        · exact ⟨rfl, rfl, rfl⟩
        · have keys := ih (old.setSwitchNums new)
          exact ⟨keys.isBondNic, keys.switchUuid, keys.bondPhyPortUuid⟩
      · exact ih old

theorem sameKeys_updateRow (c row : CDbSchedule) : SameKeys (updateRow c row) row := by
  unfold updateRow
  split
  · split <;> exact ⟨rfl, rfl, rfl⟩
  · exact ⟨rfl, rfl, rfl⟩

/-- Both numbers of the switch come from one of the new rows of it, if there is one. -/
theorem mergeRow_switch (old : CDbSchedule) (news : List CDbSchedule) :
    ((∀ u ∈ news, u.switchUuid ≠ old.switchUuid) ∧
        (mergeRow old news).switchFreeNum = old.switchFreeNum ∧
        (mergeRow old news).switchSriovFreeNum = old.switchSriovFreeNum) ∨
      ∃ u ∈ news, u.switchUuid = old.switchUuid ∧
        (mergeRow old news).switchFreeNum = u.switchFreeNum ∧
        (mergeRow old news).switchSriovFreeNum = u.switchSriovFreeNum := by
  induction news generalizing old with
  | nil => exact Or.inl ⟨fun _ => (nomatch ·), rfl, rfl⟩
  | cons new rest ih =>
      rw [mergeRow]
      by_cases same : new.switchUuid = old.switchUuid
      · rw [if_pos same]
        by_cases port : new.bondPhyPortUuid = old.bondPhyPortUuid
        · rw [if_pos port]
          exact Or.inr ⟨new, List.mem_cons_self, same, rfl, rfl⟩
        · rw [if_neg port]
          rcases ih (old.setSwitchNums new) with ⟨-, free, sriov⟩ | ⟨u, member, match_, nums⟩
          · exact Or.inr ⟨new, List.mem_cons_self, same, free, sriov⟩
          · exact Or.inr ⟨u, List.mem_cons_of_mem new member, match_, nums⟩
      · rw [if_neg same]
        rcases ih old with ⟨none, free, sriov⟩ | ⟨u, member, match_, nums⟩
        · exact Or.inl ⟨List.forall_mem_cons.mpr ⟨same, none⟩, free, sriov⟩
        · exact Or.inr ⟨u, List.mem_cons_of_mem new member, match_, nums⟩

/-- The number of the port comes from a new row of the switch and the port. -/
theorem mergeRow_port (old : CDbSchedule) (news : List CDbSchedule) :
    ((∀ u ∈ news, u.switchUuid = old.switchUuid → u.bondPhyPortUuid ≠ old.bondPhyPortUuid) ∧
        (mergeRow old news).bondPhyPortFreeNum = old.bondPhyPortFreeNum) ∨
      ∃ u ∈ news, u.switchUuid = old.switchUuid ∧ u.bondPhyPortUuid = old.bondPhyPortUuid ∧
        (mergeRow old news).bondPhyPortFreeNum = u.bondPhyPortFreeNum := by
  induction news generalizing old with
  | nil => exact Or.inl ⟨fun _ => (nomatch ·), rfl⟩
  | cons new rest ih =>
      rw [mergeRow]
      by_cases same : new.switchUuid = old.switchUuid
      · rw [if_pos same]
        by_cases port : new.bondPhyPortUuid = old.bondPhyPortUuid
        · rw [if_pos port]
          exact Or.inr ⟨new, List.mem_cons_self, same, port, rfl⟩
        · rw [if_neg port]
          rcases ih (old.setSwitchNums new) with ⟨none, free⟩ | ⟨u, member, match_, found⟩
          · exact Or.inl ⟨List.forall_mem_cons.mpr ⟨fun _ => port, none⟩, free⟩
          · exact Or.inr ⟨u, List.mem_cons_of_mem new member, match_, found⟩
      · rw [if_neg same]
        rcases ih old with ⟨none, free⟩ | ⟨u, member, match_, found⟩
        · exact Or.inl ⟨List.forall_mem_cons.mpr ⟨fun again => (same again).elim, none⟩, free⟩
        · exact Or.inr ⟨u, List.mem_cons_of_mem new member, match_, found⟩

theorem updateDBRes_eq (news : List CDbSchedule) (c : CDbSchedule) :
    updateDBRes news c =
      if (news.map (updateRow c)).any fun u => u.switchUuid = c.switchUuid ∧
          u.bondPhyPortUuid = c.bondPhyPortUuid then news.map (updateRow c)
      else news.map (updateRow c) ++ [c] := rfl

theorem mem_updateDBRes {u : CDbSchedule} (member : u ∈ updateDBRes news c) :
    (∃ v ∈ news, u = updateRow c v) ∨ u = c := by
  rw [updateDBRes_eq] at member
  split at member
  · obtain ⟨v, inside, same⟩ := List.mem_map.mp member
    exact Or.inl ⟨v, inside, same.symm⟩
  · rw [List.mem_append, List.mem_singleton] at member
    cases member with
    | inl updated =>
        obtain ⟨v, inside, same⟩ := List.mem_map.mp updated
        exact Or.inl ⟨v, inside, same.symm⟩
    | inr new => exact Or.inr new

/-- A row that was there still is, and there is one for the row that the update is about. -/
theorem updateRow_mem_updateDBRes {v : CDbSchedule} (member : v ∈ news) :
    updateRow c v ∈ updateDBRes news c := by
  rw [updateDBRes_eq]
  split
  · exact List.mem_map_of_mem member
  · exact List.mem_append_left _ (List.mem_map_of_mem member)

theorem updateDBRes_covers (news : List CDbSchedule) (c : CDbSchedule) :
    ∃ u ∈ updateDBRes news c, u.switchUuid = c.switchUuid ∧
      u.bondPhyPortUuid = c.bondPhyPortUuid := by
  rw [updateDBRes_eq]
  split
  · rename_i found
    obtain ⟨u, member, same⟩ := List.any_eq_true.mp found
    exact ⟨u, member, of_decide_eq_true same⟩
  · exact ⟨c, List.mem_append_right _ (List.mem_singleton_self c), rfl, rfl⟩

theorem updateRow_switch (same : row.switchUuid = c.switchUuid) :
    (updateRow c row).switchFreeNum = c.switchFreeNum ∧
      (updateRow c row).switchSriovFreeNum = c.switchSriovFreeNum := by
  rw [updateRow, if_pos same]
  split <;> exact ⟨rfl, rfl⟩

theorem updateRow_other (other : row.switchUuid ≠ c.switchUuid) : updateRow c row = row := by
  rw [updateRow, if_neg other]

theorem updateRow_port (same : row.switchUuid = c.switchUuid) :
    (updateRow c row).bondPhyPortFreeNum =
      if row.bondPhyPortUuid = c.bondPhyPortUuid then c.bondPhyPortFreeNum
      else row.bondPhyPortFreeNum := by
  rw [updateRow, if_pos same]
  split <;> rfl

/-- No number of a row is negative. -/
structure CDbSchedule.Whole (row : CDbSchedule) : Prop where
  switch : 0 ≤ row.switchFreeNum
  sriov : 0 ≤ row.switchSriovFreeNum
  port : 0 ≤ row.bondPhyPortFreeNum

/-- A property of the numbers of a row that merges keep. -/
structure Merges (p : CDbSchedule → Prop) : Prop where
  switch : ∀ row new, p row → p new → p (row.setSwitchNums new)
  port : ∀ row new, p row → p new → p (row.setPortNum new)

theorem merges_whole : Merges CDbSchedule.Whole where
  switch _ _ row new := ⟨new.switch, new.sriov, row.port⟩
  port _ _ row new := ⟨row.switch, row.sriov, new.port⟩

/-- Both numbers of the switch are one. -/
def CDbSchedule.Even (row : CDbSchedule) : Prop := row.switchFreeNum = row.switchSriovFreeNum

theorem merges_wholeEven : Merges fun row => row.Whole ∧ row.Even where
  switch _ _ row new := ⟨⟨new.1.switch, new.1.sriov, row.1.port⟩, new.2⟩
  port _ _ row new := ⟨⟨row.1.switch, row.1.sriov, new.1.port⟩, row.2⟩

variable {p : CDbSchedule → Prop}

theorem Merges.mergeRow (merges : Merges p) (holds : p old) (all : ∀ u ∈ news, p u) :
    p (mergeRow old news) := by
  induction news generalizing old with
  | nil => exact holds
  | cons new rest ih =>
      rw [List.forall_mem_cons] at all
      rw [VnmSchedule.mergeRow]
      split
      · split
        · exact merges.port _ _ (merges.switch _ _ holds all.1) all.1
        · exact ih (merges.switch _ _ holds all.1) all.2
      · exact ih holds all.2

theorem Merges.mergeAll {olds : List CDbSchedule} (merges : Merges p) (holds : ∀ u ∈ olds, p u)
    (all : ∀ u ∈ news, p u) : ∀ u ∈ mergeAllocDBResult olds news, p u := by
  intro u member
  obtain ⟨old, inside, rfl⟩ := List.mem_map.mp member
  exact merges.mergeRow (holds old inside) all

theorem Merges.updateRow (merges : Merges p) (holds : p row) (taken : p c) :
    p (updateRow c row) := by
  unfold VnmSchedule.updateRow
  split
  · split
    · exact merges.port _ _ (merges.switch _ _ holds taken) taken
    · exact merges.switch _ _ holds taken
  · exact holds

theorem Merges.updateDBRes (merges : Merges p) (all : ∀ u ∈ news, p u) (taken : p c) :
    ∀ u ∈ updateDBRes news c, p u := by
  intro u member
  rcases mem_updateDBRes member with ⟨v, inside, rfl⟩ | rfl
  · exact merges.updateRow (all v inside) taken
  · exact taken

end Rows

section Books

variable {alloc start : Alloc} {nic : ℕ} {c : CDbSchedule} {bondPort : Option String}
  {port s : String} {vnics : List ℕ} {rows : List CDbSchedule}

/-- How many vNICs were given a switch, and a physical port of a bond. -/
def Alloc.used (alloc : Alloc) (s : String) : ℕ :=
  (alloc.given.filter fun grant => grant.switchUuid = s).length

def Alloc.usedPort (alloc : Alloc) (p : String) : ℕ :=
  (alloc.given.filter fun grant => grant.bondPort = some p).length

def Alloc.granted (alloc : Alloc) : List ℕ := alloc.given.map Grant.nic

/-- The vNICs of a group that were given nothing. -/
def Alloc.waiting (alloc : Alloc) (vnics : List ℕ) : List ℕ :=
  vnics.filter fun nic => nic ∉ alloc.granted

@[simp] theorem given_give : (alloc.give nic c bondPort).given =
    alloc.given ++ [⟨nic, c.switchUuid, bondPort⟩] := rfl
@[simp] theorem written_give : (alloc.give nic c bondPort).written = alloc.written ++ [c] := rfl

theorem vSwitch_give (other : ℕ) : (alloc.give nic c bondPort).vSwitchUuid other =
    if other = nic then c.switchUuid else alloc.vSwitchUuid other :=
  Function.update_apply alloc.vSwitchUuid nic c.switchUuid other

theorem used_give : (alloc.give nic c bondPort).used s =
    alloc.used s + if c.switchUuid = s then 1 else 0 := by
  rw [Alloc.used, given_give, List.filter_append, List.length_append, ← Alloc.used]
  by_cases same : c.switchUuid = s <;> simp [same]

theorem usedPort_give (p : String) : (alloc.give nic c bondPort).usedPort p =
    alloc.usedPort p + if bondPort = some p then 1 else 0 := by
  rw [Alloc.usedPort, given_give, List.filter_append, List.length_append, ← Alloc.usedPort]
  by_cases same : bondPort = some p <;> simp [same]

theorem granted_give : (alloc.give nic c bondPort).granted = alloc.granted ++ [nic] := by
  rw [Alloc.granted, given_give, List.map_append, List.map_singleton, Alloc.granted]

/-- What holds of an allocation at any time. -/
structure Alloc.Good (alloc : Alloc) : Prop where
  set : ∀ grant ∈ alloc.given,
    alloc.vSwitchUuid grant.nic = grant.switchUuid ∧ grant.switchUuid ≠ ""
  once : alloc.granted.Nodup
  whole : ∀ row ∈ alloc.written, row.Whole

theorem Alloc.Good.assigned (good : alloc.Good) (granted : nic ∈ alloc.granted) :
    alloc.vSwitchUuid nic ≠ "" := by
  obtain ⟨grant, member, rfl⟩ := List.mem_map.mp granted
  obtain ⟨same, named⟩ := good.set grant member
  exact same ▸ named

theorem Alloc.Good.give (good : alloc.Good) (free : alloc.vSwitchUuid nic = "")
    (named : c.switchUuid ≠ "") (whole : c.Whole) : (alloc.give nic c bondPort).Good := by
  have fresh : nic ∉ alloc.granted := fun granted => good.assigned granted free
  refine ⟨?_, ?_, ?_⟩
  · rw [given_give, List.forall_mem_append]
    constructor
    · intro grant member
      have other : grant.nic ≠ nic := fun same => fresh (same ▸ List.mem_map_of_mem member)
      rw [vSwitch_give, if_neg other]
      exact good.set grant member
    · intro grant member
      rw [List.mem_singleton] at member
      subst member
      exact ⟨by rw [vSwitch_give, if_pos rfl], named⟩
  · rw [granted_give, List.nodup_append]
    refine ⟨good.once, List.nodup_singleton _, ?_⟩
    intro a left b right same
    rw [List.mem_singleton] at right
    exact fresh (right ▸ same ▸ left)
  · rw [written_give, List.forall_mem_append]
    refine ⟨good.whole, ?_⟩
    intro row member
    rw [List.mem_singleton] at member
    exact member ▸ whole

theorem waiting_give (nodup : vnics.Nodup) (member : nic ∈ vnics)
    (fresh : nic ∉ alloc.granted) :
    ((alloc.give nic c bondPort).waiting vnics).length + 1 = (alloc.waiting vnics).length := by
  have inside : nic ∈ alloc.waiting vnics :=
    List.mem_filter.mpr ⟨member, decide_eq_true fresh⟩
  have erased : (alloc.give nic c bondPort).waiting vnics = (alloc.waiting vnics).erase nic := by
    have waitingNodup : (alloc.waiting vnics).Nodup := nodup.filter _
    rw [waitingNodup.erase_eq_filter, Alloc.waiting, Alloc.waiting, List.filter_filter]
    apply List.filter_congr
    intro other _
    rw [granted_give]
    by_cases same : other = nic <;> simp [same]
  rw [erased, List.length_erase_of_mem inside]
  have positive := List.length_pos_of_mem inside
  omega

/-- What holds while a group is served: what is given is given to its vNICs, on switches of its
rows. -/
structure Alloc.InGroup (vnics : List ℕ) (rows : List CDbSchedule) (start alloc : Alloc) :
    Prop where
  good : alloc.Good
  grows : start.given <+: alloc.given
  own : ∀ grant ∈ alloc.given, grant ∈ start.given ∨
    (grant.nic ∈ vnics ∧ ∃ row ∈ rows, row.switchUuid = grant.switchUuid)
  untouched : ∀ nic, nic ∉ alloc.granted → alloc.vSwitchUuid nic = start.vSwitchUuid nic

theorem Alloc.Good.inGroup (good : alloc.Good) : alloc.InGroup vnics rows alloc where
  good := good
  grows := List.prefix_refl _
  own := fun _ => Or.inl
  untouched := fun _ _ => rfl

theorem Alloc.InGroup.give (group : start.InGroup vnics rows alloc) (member : nic ∈ vnics)
    (free : alloc.vSwitchUuid nic = "") (named : c.switchUuid ≠ "")
    (own : ∃ row ∈ rows, row.switchUuid = c.switchUuid) (whole : c.Whole) :
    start.InGroup vnics rows (alloc.give nic c bondPort) where
  good := group.good.give free named whole
  grows := group.grows.trans (List.prefix_append _ _)
  own := by
    rw [given_give, List.forall_mem_append]
    refine ⟨group.own, ?_⟩
    intro grant last
    rw [List.mem_singleton] at last
    subst last
    exact Or.inr ⟨member, own⟩
  untouched := by
    intro other none
    rw [granted_give, List.mem_append, List.mem_singleton, not_or] at none
    rw [vSwitch_give, if_neg none.2]
    exact group.untouched other none.1

theorem Alloc.Good.recordSriov (good : alloc.Good) : (alloc.recordSriov port nic).Good :=
  ⟨good.set, good.once, good.whole⟩

theorem Alloc.InGroup.recordSriov (group : start.InGroup vnics rows alloc) :
    start.InGroup vnics rows (alloc.recordSriov port nic) :=
  ⟨group.good.recordSriov, group.grows, group.own, group.untouched⟩

theorem Alloc.InGroup.fresh (group : start.InGroup vnics rows alloc)
    (free : alloc.vSwitchUuid nic = "") : nic ∉ alloc.granted :=
  fun granted => group.good.assigned granted free

theorem Alloc.InGroup.waits (group : start.InGroup vnics rows alloc) (member : nic ∈ vnics)
    (free : alloc.vSwitchUuid nic = "") : 0 < (alloc.waiting vnics).length :=
  List.length_pos_of_mem (List.mem_filter.mpr ⟨member, decide_eq_true (group.fresh free)⟩)

/-- A vNIC of the group is given a switch of its rows, once everyone is served. -/
theorem Alloc.InGroup.served (group : start.InGroup vnics rows alloc) (member : nic ∈ vnics)
    (fresh : nic ∉ start.granted) (done : alloc.waiting vnics = []) :
    ∃ grant ∈ alloc.given, grant.nic = nic ∧
      ∃ row ∈ rows, row.switchUuid = grant.switchUuid := by
  have granted : nic ∈ alloc.granted := by
    by_contra absent
    have inside : nic ∈ alloc.waiting vnics :=
      List.mem_filter.mpr ⟨member, decide_eq_true absent⟩
    rw [done] at inside
    cases inside
  obtain ⟨grant, given, rfl⟩ := List.mem_map.mp granted
  refine ⟨grant, given, rfl, ?_⟩
  rcases group.own grant given with old | new
  · exact (fresh (List.mem_map_of_mem old)).elim
  · exact new.2

/-- A group takes no more of a switch than it has vNICs, and of others than its rows' none. -/
theorem Alloc.InGroup.used_le (group : start.InGroup vnics rows alloc) (nodup : vnics.Nodup)
    (t : String) :
    alloc.used t + (alloc.waiting vnics).length ≤ start.used t + vnics.length := by
  obtain ⟨more, given⟩ := group.grows
  have granted : alloc.granted = start.granted ++ more.map Grant.nic := by
    rw [Alloc.granted, ← given, List.map_append, Alloc.granted]
  have apart := List.nodup_append.mp (granted ▸ group.good.once)
  have news : ∀ nic ∈ more.map Grant.nic, nic ∈ vnics := by
    intro nic member
    obtain ⟨grant, inside, rfl⟩ := List.mem_map.mp member
    rcases group.own grant (given ▸ List.mem_append_right _ inside) with old | new
    · exact (apart.2.2 _ (List.mem_map_of_mem old) _ member rfl).elim
    · exact new.1
  have both : (more.map Grant.nic ++ alloc.waiting vnics).Nodup := by
    refine List.nodup_append.mpr ⟨apart.2.1, nodup.filter _, ?_⟩
    intro a left b right same
    have free := of_decide_eq_true (List.mem_filter.mp right).2
    exact free (granted ▸ List.mem_append_right _ (same ▸ left))
  have inside : more.map Grant.nic ++ alloc.waiting vnics ⊆ vnics := by
    intro nic member
    rcases List.mem_append.mp member with new | waiting
    · exact news nic new
    · exact (List.mem_filter.mp waiting).1
  have count := (both.subperm inside).length_le
  rw [List.length_append, List.length_map] at count
  have used : alloc.used t ≤ start.used t + more.length := by
    rw [Alloc.used, ← given, List.filter_append, List.length_append, ← Alloc.used]
    exact Nat.add_le_add_left (List.length_filter_le _ more) _
  omega

/-- What no new vNIC is on is used as before. -/
theorem used_grows {t : String} (grows : start.given <+: alloc.given) (once : alloc.granted.Nodup)
    (new : ∀ grant ∈ alloc.given, grant ∈ start.given ∨ grant.switchUuid ≠ t) :
    alloc.used t = start.used t := by
  obtain ⟨more, given⟩ := grows
  rw [Alloc.granted, ← given, List.map_append] at once
  have none : more.filter (fun grant => grant.switchUuid = t) = [] := by
    apply List.filter_eq_nil_iff.mpr
    intro grant member
    rw [decide_eq_true_eq]
    rcases new grant (given ▸ List.mem_append_right _ member) with old | other
    · exact ((List.nodup_append.mp once).2.2 _ (List.mem_map_of_mem old) _
        (List.mem_map_of_mem member) rfl).elim
    · exact other
  rw [Alloc.used, ← given, List.filter_append, none, List.append_nil, ← Alloc.used]

theorem used_mono (grows : start.given <+: alloc.given) (t : String) :
    start.used t ≤ alloc.used t :=
  (grows.sublist.filter _).length_le

/-- The vNICs of a group that have no switch. -/
def Alloc.unset (alloc : Alloc) (vnics : List ℕ) : ℕ :=
  (vnics.filter fun nic => alloc.vSwitchUuid nic = "").length

/-- What is left by vNICs that are set one after the other, each of them without a switch before. -/
structure Alloc.Grows (vnics : List ℕ) (start alloc : Alloc) : Prop where
  granted : ∀ nic ∈ alloc.granted,
    nic ∈ start.granted ∨ (nic ∈ vnics ∧ start.vSwitchUuid nic = "")
  unset : ∀ nic, alloc.vSwitchUuid nic = "" → start.vSwitchUuid nic = ""
  written : start.written <+: alloc.written

variable {middle : Alloc} {more : List ℕ}

theorem grows_refl : start.Grows vnics start :=
  ⟨fun _ => Or.inl, fun _ => id, List.prefix_refl _⟩

theorem Alloc.Grows.trans (first : start.Grows vnics middle) (second : middle.Grows more alloc) :
    start.Grows (vnics ++ more) alloc where
  granted := by
    intro nic granted
    rcases second.granted nic granted with old | ⟨member, free⟩
    · exact (first.granted nic old).imp id fun new => ⟨List.mem_append_left _ new.1, new.2⟩
    · exact Or.inr ⟨List.mem_append_right _ member, first.unset nic free⟩
  unset nic free := first.unset nic (second.unset nic free)
  written := first.written.trans second.written

theorem Alloc.Grows.give (grows : start.Grows vnics alloc) (member : nic ∈ vnics)
    (free : alloc.vSwitchUuid nic = "") : start.Grows vnics (alloc.give nic c bondPort) where
  granted := by
    rw [granted_give, List.forall_mem_append]
    refine ⟨grows.granted, ?_⟩
    intro other last
    rw [List.mem_singleton] at last
    exact Or.inr (last ▸ ⟨member, grows.unset nic free⟩)
  unset := by
    intro other none
    rw [vSwitch_give] at none
    by_cases same : other = nic
    · exact same ▸ grows.unset nic free
    · rw [if_neg same] at none
      exact grows.unset other none
  written := grows.written.trans (List.prefix_append _ _)

/-- The ports that are noted do not count. -/
theorem Alloc.Grows.remap {m : List (String × ℕ)} (grows : start.Grows vnics alloc) :
    start.Grows vnics { alloc with mapVnicSriov := m } :=
  ⟨grows.granted, grows.unset, grows.written⟩

end Books

end Tecs.VnmSchedule
