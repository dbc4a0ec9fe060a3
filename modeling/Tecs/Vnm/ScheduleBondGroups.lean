import Tecs.Vnm.ScheduleEdvs

set_option autoImplicit false

/-! The allocation of the vNICs of a logic network to the bond of one switch. -/

namespace Tecs.VnmSchedule

section Serving

variable {inv : Inventory} {vnics todo : List ℕ} {rows : List CDbSchedule} {start : Alloc}
  {s : OutServing} {nic : ℕ} {t : String}

def OutServing.found (s : OutServing) : CDbSchedule :=
  (s.outInfo.find? fun row => row.bondPhyPortFreeNum ≥ 1).getD {}

def OutServing.give (s : OutServing) (nic : ℕ) : OutServing where
  alloc := s.alloc.giveBond nic (takeMax s.found)
  vecDBUpdate := updateDBRes s.vecDBUpdate (takeMax s.found)
  outInfo := updateDBRes ((s.outInfo.eraseP fun row =>
    row.bondPhyPortUuid = (takeMax s.found).bondPhyPortUuid) ++ [takeMax s.found])
    (takeMax s.found)

theorem serveOut_cons (nic : ℕ) (rest : List ℕ) (s : OutServing) :
    serveOut (nic :: rest) s =
      if s.alloc.vSwitchUuid nic ≠ "" then serveOut rest s
      else serveOut rest (s.give nic) := rfl

/-- The loop as each vNIC finds it that has no switch. -/
def outStates : List ℕ → OutServing → List OutServing
  | [], _ => []
  | nic :: rest, s =>
      if s.alloc.vSwitchUuid nic ≠ "" then outStates rest s
      else s :: outStates rest (s.give nic)

/-- A property that every vNIC keeps, where the loop is as asked, is kept by the whole loop. -/
theorem serveOut_keeps {P Q : OutServing → Prop}
    (step : ∀ s, ∀ nic ∈ todo, P s → s.alloc.vSwitchUuid nic = "" → Q s → P (s.give nic))
    (holds : P s) (states : ∀ before ∈ outStates todo s, Q before) : P (serveOut todo s) := by
  induction todo generalizing s with
  | nil => exact holds
  | cons nic rest ih =>
      have later : ∀ s, ∀ nic ∈ rest, P s → s.alloc.vSwitchUuid nic = "" → Q s →
          P (s.give nic) :=
        fun s other member => step s other (List.mem_cons_of_mem nic member)
      rw [outStates] at states
      rw [serveOut_cons]
      by_cases assigned : s.alloc.vSwitchUuid nic ≠ ""
      · rw [if_pos assigned] at states ⊢
        exact ih later holds states
      · rw [if_neg assigned] at states ⊢
        rw [List.forall_mem_cons] at states
        exact ih later (step s nic List.mem_cons_self holds (not_not.mp assigned) states.1)
          states.2

theorem serveOut_grows (inside : ∀ nic ∈ todo, nic ∈ vnics) (grows : start.Grows vnics s.alloc) :
    start.Grows vnics (serveOut todo s).alloc :=
  @serveOut_keeps todo s (fun s => start.Grows vnics s.alloc) (fun _ => True)
    (fun _ nic member grows free _ => (grows.give (inside nic member) free).remap) grows
    fun _ _ => trivial

/-- The row that every vNIC was set by is among the rows that were written. -/
theorem serveOut_written :
    ∀ before ∈ outStates todo s, takeMax before.found ∈ (serveOut todo s).alloc.written := by
  induction todo generalizing s with
  | nil => exact fun _ => (nomatch ·)
  | cons nic rest ih =>
      rw [outStates, serveOut_cons]
      by_cases assigned : s.alloc.vSwitchUuid nic ≠ ""
      · rw [if_pos assigned, if_pos assigned]
        exact ih
      · rw [if_neg assigned, if_neg assigned, List.forall_mem_cons]
        have later := @serveOut_grows rest rest (s.give nic).alloc (s.give nic) (fun _ => id)
          grows_refl
        refine ⟨later.written.subset ?_, ih⟩
        exact List.mem_append_right _ (List.mem_singleton_self _)

/-- A port of the bond has room. -/
def OutServing.HasPort (s : OutServing) : Prop := ∃ row ∈ s.outInfo, row.bondPhyPortFreeNum ≥ 1

theorem found_port (port : s.HasPort) :
    s.found ∈ s.outInfo ∧ s.found.bondPhyPortFreeNum ≥ 1 := by
  obtain ⟨row, listed, enough⟩ := port
  have isSome : (s.outInfo.find? fun row => row.bondPhyPortFreeNum ≥ 1).isSome :=
    List.find?_isSome.mpr ⟨row, listed, decide_eq_true enough⟩
  obtain ⟨c, found⟩ := Option.isSome_iff_exists.mp isSome
  have same : s.found = c := by rw [OutServing.found, found, Option.getD_some]
  have chosen := List.find?_some found
  rw [decide_eq_true_eq] at chosen
  rw [same]
  exact ⟨List.mem_of_find?_eq_some found, chosen⟩

/-- Where no port has room, the number of the row that is taken gets negative. -/
theorem hasPort_of_whole (whole : (takeMax s.found).Whole) : s.HasPort := by
  have port := whole.port
  change 0 ≤ s.found.bondPhyPortFreeNum - 1 at port
  unfold OutServing.found at port
  cases found : s.outInfo.find? fun row => row.bondPhyPortFreeNum ≥ 1 with
  | none =>
      rw [found] at port
      change (0 : ℤ) ≤ 0 - 1 at port
      omega
  | some row =>
      have chosen := List.find?_some found
      rw [decide_eq_true_eq] at chosen
      exact ⟨row, List.mem_of_find?_eq_some found, chosen⟩

theorem granted_out : (s.give nic).alloc.granted = s.alloc.granted ++ [nic] := granted_give

theorem serveOut_granted (granted : nic ∈ s.alloc.granted) :
    nic ∈ (serveOut todo s).alloc.granted := by
  refine @serveOut_keeps todo s (fun s => nic ∈ s.alloc.granted) (fun _ => True) ?_ granted
    fun _ _ => trivial
  intro s other _ before _ _
  rw [granted_out]
  exact List.mem_append_left _ before

/-- What the loop over the vNICs keeps: the rows are those of one bond. -/
structure OutServing.Inv (inv : Inventory) (vnics : List ℕ) (rows : List CDbSchedule)
    (start : Alloc) (t : String) (s : OutServing) : Prop where
  group : start.InGroup vnics rows s.alloc
  book : Book inv s.alloc
  tracks : BondTracks inv s.alloc s.vecDBUpdate
  out : ∀ row ∈ s.outInfo, row.switchUuid = t ∧ BondRight inv s.alloc row

/-- What a group of vNICs finds at its switch: room for all of them. -/
structure RoomAt (inv : Inventory) (vnics : List ℕ) (rows : List CDbSchedule) (start : Alloc)
    (t : String) : Prop where
  named : t ≠ ""
  own : ∃ row ∈ rows, row.switchUuid = t
  switch : start.used t + vnics.length ≤ inv.switchFree t

/-- As long as somebody waits, the switch has room. -/
theorem RoomAt.left (room : RoomAt inv vnics rows start t) (nodup : vnics.Nodup)
    (holds : s.Inv inv vnics rows start t) (member : nic ∈ vnics)
    (free : s.alloc.vSwitchUuid nic = "") : s.alloc.used t + 1 ≤ inv.switchFree t := by
  have waits := holds.group.waits member free
  have fewer := holds.group.used_le nodup t
  have switch := room.switch
  omega

theorem updateRow_self (c : CDbSchedule) : updateRow c c = c := by
  rw [updateRow, if_pos rfl, if_pos rfl]
  rfl

theorem OutServing.Inv.give (room : RoomAt inv vnics rows start t) (nodup : vnics.Nodup)
    (holds : s.Inv inv vnics rows start t) (member : nic ∈ vnics)
    (free : s.alloc.vSwitchUuid nic = "") (port : s.HasPort) :
    (s.give nic).Inv inv vnics rows start t := by
  have capacity := room.left nodup holds member free
  obtain ⟨listed, enough⟩ := found_port port
  obtain ⟨switch, right⟩ := holds.out s.found listed
  have took := taken_takeMax s.found
  rw [← switch] at capacity
  have whole := (taken_whole right enough took capacity).1
  have named : (takeMax s.found).switchUuid ≠ "" := fun none =>
    room.named (switch.symm.trans none)
  have own : ∃ row ∈ rows, row.switchUuid = (takeMax s.found).switchUuid := by
    obtain ⟨row, inside, same⟩ := room.own
    exact ⟨row, inside, same.trans switch.symm⟩
  refine ⟨?_, ?_, ?_, ?_⟩
  · exact (holds.group.give (c := takeMax s.found) member free named own whole).recordSriov
  · exact holds.book.give right enough took capacity
  · exact holds.tracks.give right took
  · intro row inside
    have after := @taken_right inv s.alloc s.found (takeMax s.found) nic right took
    rcases mem_updateDBRes inside with ⟨v, old, rfl⟩ | rfl
    · rw [List.mem_append, List.mem_singleton] at old
      rcases old with kept | rfl
      · obtain ⟨same, before⟩ := holds.out v (List.mem_of_mem_eraseP kept)
        exact ⟨(sameKeys_updateRow _ v).switchUuid.trans same, before.update right took⟩
      · rw [updateRow_self]
        exact ⟨switch, after⟩
    · exact ⟨switch, after⟩

theorem serveOut_inv (room : RoomAt inv vnics rows start t) (nodup : vnics.Nodup)
    (inside : ∀ nic ∈ todo, nic ∈ vnics) (holds : s.Inv inv vnics rows start t)
    (ports : ∀ before ∈ outStates todo s, before.HasPort) :
    (serveOut todo s).Inv inv vnics rows start t :=
  serveOut_keeps (fun _ nic member kept free port =>
    kept.give room nodup (inside nic member) free port) holds ports

/-- Nobody is passed over, as nobody had a switch before. -/
theorem serveOut_all (room : RoomAt inv vnics rows start t) (nodup : vnics.Nodup)
    (inside : ∀ nic ∈ todo, nic ∈ vnics) (holds : s.Inv inv vnics rows start t)
    (free : ∀ nic ∈ vnics, start.vSwitchUuid nic = "")
    (ports : ∀ before ∈ outStates todo s, before.HasPort) :
    ∀ nic ∈ todo, nic ∈ (serveOut todo s).alloc.granted := by
  induction todo generalizing s with
  | nil => exact fun _ => (nomatch ·)
  | cons nic rest ih =>
      rw [List.forall_mem_cons] at inside
      rw [outStates] at ports
      rw [List.forall_mem_cons, serveOut_cons]
      by_cases assigned : s.alloc.vSwitchUuid nic ≠ ""
      · rw [if_pos assigned] at ports ⊢
        have granted : nic ∈ s.alloc.granted := by
          by_contra absent
          rw [holds.group.untouched nic absent] at assigned
          exact assigned (free nic inside.1)
        exact ⟨serveOut_granted granted, ih inside.2 holds ports⟩
      · rw [if_neg assigned] at ports ⊢
        rw [List.forall_mem_cons] at ports
        have next := holds.give room nodup inside.1 (not_not.mp assigned) ports.1
        have granted : nic ∈ (s.give nic).alloc.granted := by
          rw [granted_out]
          exact List.mem_append_right _ (List.mem_singleton_self nic)
        exact ⟨serveOut_granted granted, ih inside.2 next ports.2⟩

end Serving

section Groups

variable {inv : Inventory} {group : CReqNumInfo} {rest groups : List CReqNumInfo}
  {start result : Alloc} {vecDBUpdate : List CDbSchedule} {t : String} {s : OutServing}

/-- The rows of a group that is to go to a bond. -/
structure CReqNumInfo.ReadBonds (inv : Inventory) (group : CReqNumInfo) : Prop where
  read : group.ReadFrom inv
  bond : ∀ row ∈ group.vecSchResult, row.isBondNic = true

/-- The switch that is found first with enough room. -/
def dvsFor (group : CReqNumInfo) (vecDBUpdate : List CDbSchedule) : String :=
  (((mergeAllocDBResult group.vecSchResult vecDBUpdate).find? fun row =>
    row.switchSriovFreeNum ≥ group.nSourceNum).map CDbSchedule.switchUuid).getD ""

/-- The loop over the vNICs of a group as it begins: what is read for the switch. -/
def outBegin (group : CReqNumInfo) (alloc : Alloc) (vecDBUpdate : List CDbSchedule) :
    OutServing :=
  ⟨alloc, vecDBUpdate, (mergeAllocDBResult group.vecSchResult vecDBUpdate).filter fun row =>
    dvsFor group vecDBUpdate = row.switchUuid⟩

/-- The loop as each vNIC of each group finds it that has no switch. -/
def bondOuts : List CReqNumInfo → Alloc → List CDbSchedule → List OutServing
  | [], _, _ => []
  | group :: groups, alloc, vecDBUpdate =>
      let begun := outBegin group alloc vecDBUpdate
      let s := serveOut group.setVnicIter begun
      outStates group.setVnicIter begun ++ bondOuts groups s.alloc s.vecDBUpdate

theorem bondGroups_cons (done : bondGroups (group :: rest) start vecDBUpdate = .ok result) :
    ∃ s, s = serveOut group.setVnicIter (outBegin group start vecDBUpdate) ∧
      dvsFor group vecDBUpdate ≠ "" ∧ bondGroups rest s.alloc s.vecDBUpdate = .ok result := by
  rw [bondGroups] at done
  split at done
  · cases done
  · rename_i named
    exact ⟨_, rfl, named, done⟩

theorem dvsFor_found (named : dvsFor group vecDBUpdate ≠ "") :
    ∃ row ∈ mergeAllocDBResult group.vecSchResult vecDBUpdate,
      row.switchUuid = dvsFor group vecDBUpdate ∧ row.switchSriovFreeNum ≥ group.nSourceNum := by
  unfold dvsFor at named ⊢
  cases found : (mergeAllocDBResult group.vecSchResult vecDBUpdate).find? fun row =>
      row.switchSriovFreeNum ≥ group.nSourceNum with
  | none =>
      rw [found] at named
      exact (named rfl).elim
  | some row =>
      have chosen := List.find?_some found
      rw [decide_eq_true_eq] at chosen
      exact ⟨row, List.mem_of_find?_eq_some found, rfl, chosen⟩

theorem merged_right (read : group.ReadBonds inv) (tracks : BondTracks inv start vecDBUpdate) :
    ∀ row ∈ mergeAllocDBResult group.vecSchResult vecDBUpdate, BondRight inv start row := by
  intro row member
  obtain ⟨old, inside, rfl⟩ := List.mem_map.mp member
  exact (read.read old inside).merged (read.bond old inside) tracks

/-- The switch that is found has room. -/
theorem room_found (read : group.ReadBonds inv) (tracks : BondTracks inv start vecDBUpdate)
    (disjoint : Disjoint start (group :: rest)) (named : dvsFor group vecDBUpdate ≠ "") :
    RoomAt inv group.setVnicIter group.vecSchResult start (dvsFor group vecDBUpdate) := by
  obtain ⟨row, member, same, enough⟩ := dvsFor_found named
  have number := (merged_right read tracks row member).switch.sriov
  have count := disjoint.number group List.mem_cons_self
  rw [same] at number
  obtain ⟨old, inside, rfl⟩ := List.mem_map.mp member
  have switch := (sameKeys_mergeRow old vecDBUpdate).switchUuid.symm.trans same
  exact ⟨named, ⟨old, inside, switch⟩, by omega⟩

theorem outServing_begin (read : group.ReadBonds inv) (good : start.Good)
    (book : Book inv start) (tracks : BondTracks inv start vecDBUpdate) :
    (outBegin group start vecDBUpdate).Inv inv group.setVnicIter group.vecSchResult start
      (dvsFor group vecDBUpdate) where
  group := good.inGroup
  book := book
  tracks := tracks
  out row member := by
    obtain ⟨merged, same⟩ := List.mem_filter.mp member
    exact ⟨(of_decide_eq_true same).symm, merged_right read tracks row merged⟩

/-- What the vNICs on the bond of one switch come to, over all groups, if none of them has a
switch and each of them finds a port. -/
theorem bondGroups_result (good : start.Good) (disjoint : Disjoint start groups)
    (free : ∀ group ∈ groups, ∀ nic ∈ group.setVnicIter, start.vSwitchUuid nic = "")
    (read : ∀ group ∈ groups, group.ReadBonds inv) (book : Book inv start)
    (tracks : BondTracks inv start vecDBUpdate)
    (ports : ∀ s ∈ bondOuts groups start vecDBUpdate, s.HasPort)
    (done : bondGroups groups start vecDBUpdate = .ok result) :
    KindResult groups start result ∧ Book inv result := by
  induction groups generalizing start vecDBUpdate with
  | nil =>
      cases done
      exact ⟨kindResult_nil good, book⟩
  | cons group rest ih =>
      rw [List.forall_mem_cons] at read free
      obtain ⟨s, served, named, later⟩ := bondGroups_cons done
      rw [bondOuts, List.forall_mem_append, ← served] at ports
      have room := room_found read.1 tracks disjoint named
      have begun := outServing_begin read.1 good book tracks
      have nodup := disjoint.head.1
      have holds := serveOut_inv room nodup (fun _ => id) begun ports.1
      have all := serveOut_all room nodup (fun _ => id) begun free.1 ports.1
      rw [← served] at holds all
      have tail := disjoint.tail holds.group
      have freeNext : ∀ other ∈ rest, ∀ nic ∈ other.setVnicIter, s.alloc.vSwitchUuid nic = "" := by
        intro other member nic inside
        rw [holds.group.untouched nic (tail.fresh other member nic inside)]
        exact free.2 other member nic inside
      obtain ⟨kind, last⟩ := ih holds.group.good tail freeNext read.2 holds.book holds.tracks
        ports.2 later
      refine ⟨kind.cons holds.group ?_, last⟩
      have none : s.alloc.waiting group.setVnicIter = [] := by
        apply List.filter_eq_nil_iff.mpr
        intro nic member
        rw [decide_eq_true_eq, not_not]
        exact all nic member
      exact fun nic member => holds.group.served member (disjoint.head.2 nic member) none

/-- Who is set had no switch before, whatever the rows are. -/
theorem bondGroups_grows (done : bondGroups groups start vecDBUpdate = .ok result) :
    start.Grows (groups.flatMap CReqNumInfo.setVnicIter) result := by
  induction groups generalizing start vecDBUpdate with
  | nil =>
      cases done
      exact grows_refl
  | cons group rest ih =>
      obtain ⟨s, rfl, -, later⟩ := bondGroups_cons done
      exact (serveOut_grows (fun _ => id) grows_refl).trans (ih later)

theorem bondGroups_written (done : bondGroups groups start vecDBUpdate = .ok result) :
    ∀ s ∈ bondOuts groups start vecDBUpdate, takeMax s.found ∈ result.written := by
  induction groups generalizing start vecDBUpdate with
  | nil => exact fun _ => (nomatch ·)
  | cons group rest ih =>
      obtain ⟨s, rfl, -, later⟩ := bondGroups_cons done
      rw [bondOuts, List.forall_mem_append]
      exact ⟨fun before member =>
        (bondGroups_grows later).written.subset (serveOut_written before member), ih later⟩

end Groups

end Tecs.VnmSchedule
