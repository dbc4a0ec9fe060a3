import Tecs.Vnm.ScheduleServe

set_option autoImplicit false

/-! The rows of bonds as a ledger of two levels: the switch, and the physical ports of its bond. -/

namespace Tecs.VnmSchedule

section Ledger

variable {inv : Inventory} {alloc after : Alloc} {kept : List CDbSchedule}
  {row c taken : CDbSchedule} {t q : String}

/-- Neither a bond nor a port is used more than it can be. -/
structure Book (inv : Inventory) (alloc : Alloc) : Prop where
  ports : ∀ t, ∀ q ∈ inv.members t, alloc.usedPort q ≤ inv.portFree q
  switch : ∀ t, inv.members t ≠ [] → alloc.used t ≤ inv.switchFree t

structure SwitchRight (inv : Inventory) (alloc : Alloc) (row : CDbSchedule) : Prop where
  sriov : row.switchSriovFreeNum = inv.switchFree row.switchUuid - alloc.used row.switchUuid
  even : row.Even

def PortRight (inv : Inventory) (alloc : Alloc) (row : CDbSchedule) : Prop :=
  row.bondPhyPortFreeNum =
    inv.portFree row.bondPhyPortUuid - alloc.usedPort row.bondPhyPortUuid

/-- A row of a bond has what is left of the switch and of its port. -/
structure BondRight (inv : Inventory) (alloc : Alloc) (row : CDbSchedule) : Prop where
  member : row.bondPhyPortUuid ∈ inv.members row.switchUuid
  switch : SwitchRight inv alloc row
  port : PortRight inv alloc row

/-- The rows kept for bonds are up to date, and there is one for whatever was used. -/
structure BondTracks (inv : Inventory) (alloc : Alloc) (kept : List CDbSchedule) : Prop where
  right : ∀ u ∈ kept, inv.members u.switchUuid ≠ [] → BondRight inv alloc u
  switches : ∀ t, inv.members t ≠ [] → alloc.used t ≠ 0 → ∃ u ∈ kept, u.switchUuid = t
  ports : ∀ t, ∀ q ∈ inv.members t, alloc.usedPort q ≠ 0 →
    ∃ u ∈ kept, u.switchUuid = t ∧ u.bondPhyPortUuid = q

/-- A row whose numbers are right, or that a merge makes so. -/
structure BondStale (inv : Inventory) (alloc : Alloc) (kept : List CDbSchedule)
    (row : CDbSchedule) : Prop where
  member : row.bondPhyPortUuid ∈ inv.members row.switchUuid
  switch : SwitchRight inv alloc row ∨ ∃ u ∈ kept, u.switchUuid = row.switchUuid
  port : PortRight inv alloc row ∨
    ∃ u ∈ kept, u.switchUuid = row.switchUuid ∧ u.bondPhyPortUuid = row.bondPhyPortUuid

theorem members_ne_nil (member : q ∈ inv.members t) : inv.members t ≠ [] :=
  List.ne_nil_of_mem member

theorem mergeRow_right (tracks : BondTracks inv alloc kept) (stale : BondStale inv alloc kept row) :
    BondRight inv alloc (mergeRow row kept) := by
  have keys := sameKeys_mergeRow row kept
  have bond := members_ne_nil stale.member
  refine ⟨by rw [keys.switchUuid, keys.bondPhyPortUuid]; exact stale.member, ?_, ?_⟩
  · have both : (mergeRow row kept).switchSriovFreeNum =
          inv.switchFree row.switchUuid - alloc.used row.switchUuid ∧
        (mergeRow row kept).Even := by
      unfold CDbSchedule.Even
      rcases mergeRow_switch row kept with ⟨none, free, sriov⟩ | ⟨u, inside, same, free, sriov⟩
      · rcases stale.switch with right | ⟨u, inside, same⟩
        · rw [free, sriov]
          exact ⟨right.sriov, right.even⟩
        · exact (none u inside same).elim
      · have right := (tracks.right u inside (same ▸ bond)).switch
        rw [free, sriov, ← same]
        exact ⟨right.sriov, right.even⟩
    refine ⟨?_, both.2⟩
    rw [keys.switchUuid]
    exact both.1
  · unfold PortRight
    rw [keys.bondPhyPortUuid]
    rcases mergeRow_port row kept with ⟨none, port⟩ | ⟨u, inside, same, key, port⟩
    · rcases stale.port with right | ⟨u, inside, same, key⟩
      · rw [port]
        exact right
      · exact (none u inside same key).elim
    · rw [port, ← key]
      exact (tracks.right u inside (same ▸ bond)).port

/-- What both ways of taking a port of a bond do to the row. -/
structure Taken (c taken : CDbSchedule) : Prop where
  switchUuid : taken.switchUuid = c.switchUuid
  bondPhyPortUuid : taken.bondPhyPortUuid = c.bondPhyPortUuid
  sriov : taken.switchSriovFreeNum = c.switchSriovFreeNum - 1
  switch : taken.switchFreeNum = c.switchSriovFreeNum - 1
  port : taken.bondPhyPortFreeNum = c.bondPhyPortFreeNum - 1

theorem taken_takeBond (c : CDbSchedule) : Taken c (takeBond c) := ⟨rfl, rfl, rfl, rfl, rfl⟩

theorem taken_takeMax (c : CDbSchedule) : Taken c (takeMax c) := ⟨rfl, rfl, rfl, rfl, rfl⟩

variable {nic : ℕ}

theorem used_giveBond (t : String) : (alloc.giveBond nic c).used t =
    alloc.used t + if c.switchUuid = t then 1 else 0 := used_give

theorem usedPort_giveBond (q : String) : (alloc.giveBond nic c).usedPort q =
    alloc.usedPort q + if c.bondPhyPortUuid = q then 1 else 0 := by
  have given := @usedPort_give alloc nic c (some c.bondPhyPortUuid) q
  simp only [Option.some.injEq] at given
  exact given

theorem taken_right (right : BondRight inv alloc c) (took : Taken c taken) :
    BondRight inv (alloc.giveBond nic taken) taken := by
  have sriov := right.switch.sriov
  have port := right.port
  refine ⟨?_, ⟨?_, ?_⟩, ?_⟩
  · rw [took.switchUuid, took.bondPhyPortUuid]
    exact right.member
  · rw [used_giveBond, if_pos rfl, took.sriov, took.switchUuid]
    omega
  · exact took.switch.trans took.sriov.symm
  · unfold PortRight at port ⊢
    rw [usedPort_giveBond, if_pos rfl, took.port, took.bondPhyPortUuid]
    omega

/-- A row that was right is so after a vNIC, or there is a row kept to make it so. -/
theorem right_give (right : BondRight inv alloc row) (right' : BondRight inv alloc c)
    (took : Taken c taken)
    (covers : ∃ u ∈ kept, u.switchUuid = taken.switchUuid ∧
      u.bondPhyPortUuid = taken.bondPhyPortUuid) :
    BondStale inv (alloc.giveBond nic taken) kept row := by
  obtain ⟨u, inside, switch, port⟩ := covers
  refine ⟨right.member, ?_, ?_⟩
  · by_cases same : taken.switchUuid = row.switchUuid
    · exact Or.inr ⟨u, inside, switch.trans same⟩
    · refine Or.inl ⟨?_, right.switch.even⟩
      rw [used_giveBond, if_neg same, Nat.add_zero]
      exact right.switch.sriov
  · by_cases key : taken.bondPhyPortUuid = row.bondPhyPortUuid
    · have same : taken.switchUuid = row.switchUuid := by
        have member := right'.member
        rw [← took.switchUuid, ← took.bondPhyPortUuid, key] at member
        exact inv.member_unique _ _ _ member right.member
      exact Or.inr ⟨u, inside, switch.trans same, port.trans key⟩
    · left
      unfold PortRight
      rw [usedPort_giveBond, if_neg key, Nat.add_zero]
      exact right.port

/-- An update with the row that was taken from keeps a row right. -/
theorem BondRight.update (old : BondRight inv alloc row) (right : BondRight inv alloc c)
    (took : Taken c taken) :
    BondRight inv (alloc.giveBond nic taken) (updateRow taken row) := by
  have after := @taken_right inv alloc c taken nic right took
  have keys := sameKeys_updateRow taken row
  refine ⟨?_, ⟨?_, ?_⟩, ?_⟩
  · rw [keys.switchUuid, keys.bondPhyPortUuid]
    exact old.member
  · rw [keys.switchUuid]
    by_cases same : row.switchUuid = taken.switchUuid
    · rw [(updateRow_switch same).2, same]
      exact after.switch.sriov
    · rw [updateRow_other same, used_giveBond, if_neg (Ne.symm same), Nat.add_zero]
      exact old.switch.sriov
  · by_cases same : row.switchUuid = taken.switchUuid
    · have nums := updateRow_switch same
      unfold CDbSchedule.Even
      rw [nums.1, nums.2]
      exact after.switch.even
    · rw [updateRow_other same]
      exact old.switch.even
  · unfold PortRight
    rw [keys.bondPhyPortUuid]
    by_cases same : row.switchUuid = taken.switchUuid
    · rw [updateRow_port same]
      by_cases key : row.bondPhyPortUuid = taken.bondPhyPortUuid
      · rw [if_pos key, key]
        exact after.port
      · rw [if_neg key, usedPort_giveBond, if_neg (Ne.symm key), Nat.add_zero]
        exact old.port
    · have key : taken.bondPhyPortUuid ≠ row.bondPhyPortUuid := by
        intro key
        have member := after.member
        rw [key] at member
        exact same (inv.member_unique _ _ _ old.member member)
      rw [updateRow_other same, usedPort_giveBond, if_neg key, Nat.add_zero]
      exact old.port

/-- The rows kept are brought up to date by the row that was taken from. -/
theorem BondTracks.give (tracks : BondTracks inv alloc kept) (right : BondRight inv alloc c)
    (took : Taken c taken) :
    BondTracks inv (alloc.giveBond nic taken) (updateDBRes kept taken) := by
  have after := @taken_right inv alloc c taken nic right took
  have covers := updateDBRes_covers kept taken
  refine ⟨?_, ?_, ?_⟩
  · intro u member bond
    rcases mem_updateDBRes member with ⟨v, inside, rfl⟩ | rfl
    · rw [(sameKeys_updateRow taken v).switchUuid] at bond
      exact (tracks.right v inside bond).update right took
    · exact after
  · intro t bond used
    by_cases same : taken.switchUuid = t
    · obtain ⟨u, inside, switch, -⟩ := covers
      exact ⟨u, inside, switch.trans same⟩
    · rw [used_giveBond, if_neg same, Nat.add_zero] at used
      obtain ⟨u, inside, switch⟩ := tracks.switches t bond used
      exact ⟨updateRow taken u, updateRow_mem_updateDBRes inside,
        (sameKeys_updateRow taken u).switchUuid.trans switch⟩
  · intro t q member used
    by_cases key : taken.bondPhyPortUuid = q
    · obtain ⟨u, inside, switch, port⟩ := covers
      have same : taken.switchUuid = t := by
        have own := after.member
        rw [key] at own
        exact inv.member_unique _ _ _ own member
      exact ⟨u, inside, switch.trans same, port.trans key⟩
    · rw [usedPort_giveBond, if_neg key, Nat.add_zero] at used
      obtain ⟨u, inside, switch, port⟩ := tracks.ports t q member used
      exact ⟨updateRow taken u, updateRow_mem_updateDBRes inside,
        (sameKeys_updateRow taken u).switchUuid.trans switch,
        (sameKeys_updateRow taken u).bondPhyPortUuid.trans port⟩

theorem Book.give (book : Book inv alloc) (right : BondRight inv alloc c)
    (port : c.bondPhyPortFreeNum ≥ 1) (took : Taken c taken)
    (room : alloc.used c.switchUuid + 1 ≤ inv.switchFree c.switchUuid) :
    Book inv (alloc.giveBond nic taken) := by
  refine ⟨?_, ?_⟩
  · intro t q member
    rw [usedPort_giveBond, took.bondPhyPortUuid]
    have old := book.ports t q member
    by_cases same : c.bondPhyPortUuid = q
    · have number := right.port
      unfold PortRight at number
      rw [same] at number
      rw [if_pos same]
      omega
    · rw [if_neg same]
      exact old
  · intro t bond
    rw [used_giveBond, took.switchUuid]
    by_cases same : c.switchUuid = t
    · rw [if_pos same, ← same]
      exact room
    · rw [if_neg same]
      exact book.switch t bond

theorem taken_whole (right : BondRight inv alloc c) (port : c.bondPhyPortFreeNum ≥ 1)
    (took : Taken c taken) (room : alloc.used c.switchUuid + 1 ≤ inv.switchFree c.switchUuid) :
    taken.Whole ∧ taken.Even := by
  have sriov := right.switch.sriov
  have number := took.sriov
  have switch := took.switch
  have portNumber := took.port
  exact ⟨⟨by omega, by omega, by omega⟩, switch.trans number.symm⟩

/-- What a vNIC on a switch without a bond leaves as it was. -/
structure BondFrame (inv : Inventory) (alloc after : Alloc) : Prop where
  used : ∀ t, inv.members t ≠ [] → after.used t = alloc.used t
  ports : ∀ q, after.usedPort q = alloc.usedPort q

theorem Book.frame (book : Book inv alloc) (frame : BondFrame inv alloc after) :
    Book inv after where
  ports t q member := frame.ports q ▸ book.ports t q member
  switch t bond := frame.used t bond ▸ book.switch t bond

theorem BondRight.frame (right : BondRight inv alloc row) (frame : BondFrame inv alloc after) :
    BondRight inv after row := by
  refine ⟨right.member, ⟨?_, right.switch.even⟩, ?_⟩
  · rw [frame.used _ (members_ne_nil right.member)]
    exact right.switch.sriov
  · unfold PortRight
    rw [frame.ports]
    exact right.port

theorem BondTracks.frame (tracks : BondTracks inv alloc kept)
    (frame : BondFrame inv alloc after) : BondTracks inv after kept where
  right u member bond := (tracks.right u member bond).frame frame
  switches t bond used := tracks.switches t bond (frame.used t bond ▸ used)
  ports t q member used := tracks.ports t q member (frame.ports q ▸ used)

/-- Rows of switches without a bond do not count. -/
theorem BondTracks.update_other (tracks : BondTracks inv alloc kept)
    (plain : inv.members taken.switchUuid = []) :
    BondTracks inv alloc (updateDBRes kept taken) where
  right u member bond := by
    rcases mem_updateDBRes member with ⟨v, inside, rfl⟩ | rfl
    · rw [(sameKeys_updateRow taken v).switchUuid] at bond
      have other : v.switchUuid ≠ taken.switchUuid := fun same => bond (same ▸ plain)
      rw [updateRow_other other]
      exact tracks.right v inside bond
    · exact (bond plain).elim
  switches t bond used := by
    obtain ⟨u, inside, same⟩ := tracks.switches t bond used
    exact ⟨updateRow taken u, updateRow_mem_updateDBRes inside,
      (sameKeys_updateRow taken u).switchUuid.trans same⟩
  ports t q member used := by
    obtain ⟨u, inside, same, key⟩ := tracks.ports t q member used
    exact ⟨updateRow taken u, updateRow_mem_updateDBRes inside,
      (sameKeys_updateRow taken u).switchUuid.trans same,
      (sameKeys_updateRow taken u).bondPhyPortUuid.trans key⟩

end Ledger

end Tecs.VnmSchedule
