import Tecs.Vnm.ScheduleBonds
import Tecs.Vnm.ScheduleKinds

set_option autoImplicit false

/-! The allocation of single vNICs with SR-IOV: to switches without a bond first, then to bonds. -/

namespace Tecs.VnmSchedule

section Reading

variable {inv : Inventory} {alloc : Alloc} {kept : List CDbSchedule} {row : CDbSchedule}

/-- A row as the inventory has it. -/
structure FromInv (inv : Inventory) (row : CDbSchedule) : Prop where
  named : row.switchUuid ≠ ""
  free : row.switchFreeNum = inv.switchFree row.switchUuid
  sriov : row.switchSriovFreeNum = inv.switchFree row.switchUuid
  bond : row.isBondNic = true → row.bondPhyPortUuid ∈ inv.members row.switchUuid ∧
    row.bondPhyPortFreeNum = inv.portFree row.bondPhyPortUuid
  plain : row.isBondNic = false → inv.members row.switchUuid = [] ∧ row.bondPhyPortFreeNum = 0

theorem FromInv.wholeEven (read : FromInv inv row) : row.Whole ∧ row.Even := by
  have free := read.free
  have sriov := read.sriov
  refine ⟨⟨by omega, by omega, ?_⟩, free.trans sriov.symm⟩
  cases kind : row.isBondNic with
  | false => exact (read.plain kind).2.ge
  | true =>
      have port := (read.bond kind).2
      omega

/-- A merge with what was kept for bonds makes a row of a bond right. -/
theorem FromInv.merged (read : FromInv inv row) (bond : row.isBondNic = true)
    (tracks : BondTracks inv alloc kept) : BondRight inv alloc (mergeRow row kept) := by
  obtain ⟨member, port⟩ := read.bond bond
  refine mergeRow_right tracks ⟨member, ?_, ?_⟩
  · by_cases used : alloc.used row.switchUuid = 0
    · refine Or.inl ⟨?_, read.free.trans read.sriov.symm⟩
      rw [read.sriov, used]
      omega
    · exact Or.inr (tracks.switches _ (members_ne_nil member) used)
  · by_cases used : alloc.usedPort row.bondPhyPortUuid = 0
    · left
      unfold PortRight
      rw [port, used]
      omega
    · exact Or.inr (tracks.ports _ _ member used)

theorem BondRight.stale (right : BondRight inv alloc row) : BondStale inv alloc kept row :=
  ⟨right.member, Or.inl right.switch, Or.inl right.port⟩

end Reading

section Bonds

variable {inv : Inventory} {vnics : List ℕ} {rows : List CDbSchedule} {start : Alloc}
  {s : BondServing} {nic : ℕ} {Q : CDbSchedule → Prop}

def BondServing.merged (s : BondServing) : List CDbSchedule :=
  mergeAllocDBResult s.vecDBBondSch s.vecDbBond

def BondServing.found (s : BondServing) : CDbSchedule := getBondSchResult s.merged {}

def BondServing.give (s : BondServing) (nic : ℕ) : BondServing where
  alloc := s.alloc.giveBond nic (takeBond s.found)
  vecDBUpdate := updateDBRes s.vecDBUpdate (takeBond s.found)
  vecDbBond := updateDBRes s.vecDbBond (takeBond s.found)
  vecDBBondSch := s.merged
  left := s.left - 1

theorem serveBond_cons (nic : ℕ) (rest : List ℕ) (s : BondServing) :
    serveBond (nic :: rest) s =
      if s.alloc.vSwitchUuid nic ≠ "" ∨ ¬ s.found.bondPhyPortFreeNum ≥ 1 then
        serveBond rest { s with vecDBBondSch := s.merged }
      else serveBond rest (s.give nic) := rfl

/-- The rows of bonds from which a port is taken, as they are before it. -/
def bondTakes : List ℕ → BondServing → List CDbSchedule
  | [], _ => []
  | nic :: rest, s =>
      if s.alloc.vSwitchUuid nic ≠ "" ∨ ¬ s.found.bondPhyPortFreeNum ≥ 1 then
        bondTakes rest { s with vecDBBondSch := s.merged }
      else s.found :: bondTakes rest (s.give nic)

/-- What the merge keeps, and every vNIC set on a bond by a row that is as asked, is kept by the
whole loop. -/
theorem serveBond_keeps {P : BondServing → Prop}
    (merge : ∀ s, P s → P { s with vecDBBondSch := s.merged })
    (step : ∀ s, ∀ nic ∈ vnics, P s → s.alloc.vSwitchUuid nic = "" →
      s.found.bondPhyPortFreeNum ≥ 1 → Q s.found → P (s.give nic)) (holds : P s)
    (takes : ∀ row ∈ bondTakes vnics s, Q row) : P (serveBond vnics s) := by
  induction vnics generalizing s with
  | nil => exact holds
  | cons nic rest ih =>
      have later : ∀ s, ∀ nic ∈ rest, P s → s.alloc.vSwitchUuid nic = "" →
          s.found.bondPhyPortFreeNum ≥ 1 → Q s.found → P (s.give nic) :=
        fun s other member => step s other (List.mem_cons_of_mem nic member)
      rw [bondTakes] at takes
      rw [serveBond_cons]
      by_cases skip : s.alloc.vSwitchUuid nic ≠ "" ∨ ¬ s.found.bondPhyPortFreeNum ≥ 1
      · rw [if_pos skip] at takes ⊢
        exact ih later (merge s holds) takes
      · rw [if_neg skip] at takes ⊢
        rw [List.forall_mem_cons] at takes
        rw [not_or, not_not, not_not] at skip
        exact ih later (step s nic List.mem_cons_self holds skip.1 skip.2 takes.1) takes.2

theorem serveBond_grows {todo : List ℕ} (inside : ∀ nic ∈ todo, nic ∈ vnics)
    (grows : start.Grows vnics s.alloc) : start.Grows vnics (serveBond todo s).alloc :=
  @serveBond_keeps todo s (fun _ => True) (fun s => start.Grows vnics s.alloc) (fun _ => id)
    (fun _ nic member grows free _ _ => (grows.give (inside nic member) free).remap) grows
    fun _ _ => trivial

/-- Every row of which a port was taken is among the rows that were written. -/
theorem serveBond_written :
    ∀ row ∈ bondTakes vnics s, takeBond row ∈ (serveBond vnics s).alloc.written := by
  induction vnics generalizing s with
  | nil => exact fun _ => (nomatch ·)
  | cons nic rest ih =>
      rw [bondTakes, serveBond_cons]
      by_cases skip : s.alloc.vSwitchUuid nic ≠ "" ∨ ¬ s.found.bondPhyPortFreeNum ≥ 1
      · rw [if_pos skip, if_pos skip]
        exact ih
      · rw [if_neg skip, if_neg skip, List.forall_mem_cons]
        have later := @serveBond_grows rest (s.give nic).alloc (s.give nic) rest (fun _ => id)
          grows_refl
        refine ⟨later.written.subset ?_, ih⟩
        exact List.mem_append_right _ (List.mem_singleton_self _)

theorem getBondSchResult_mem (rows : List CDbSchedule) (cMaxDB : CDbSchedule) :
    getBondSchResult rows cMaxDB = cMaxDB ∨ getBondSchResult rows cMaxDB ∈ rows := by
  unfold getBondSchResult
  induction rows generalizing cMaxDB with
  | nil => exact Or.inl rfl
  | cons itrDB rest ih =>
      rw [List.foldl_cons]
      rcases ih (if cMaxDB.switchUuid = "" then
          if itrDB.bondPhyPortFreeNum ≠ 0 then itrDB else cMaxDB
        else if itrDB.switchUuid = cMaxDB.switchUuid ∧
            itrDB.bondPhyPortFreeNum > cMaxDB.bondPhyPortFreeNum then itrDB
        else cMaxDB) with same | later
      · rw [same]
        by_cases first : cMaxDB.switchUuid = ""
        · rw [if_pos first]
          by_cases some : itrDB.bondPhyPortFreeNum ≠ 0
          · rw [if_pos some]
            exact Or.inr List.mem_cons_self
          · rw [if_neg some]
            exact Or.inl rfl
        · rw [if_neg first]
          by_cases more : itrDB.switchUuid = cMaxDB.switchUuid ∧
              itrDB.bondPhyPortFreeNum > cMaxDB.bondPhyPortFreeNum
          · rw [if_pos more]
            exact Or.inr List.mem_cons_self
          · rw [if_neg more]
            exact Or.inl rfl
      · exact Or.inr (List.mem_cons_of_mem itrDB later)

/-- The row that is chosen is one of the rows, unless it has no port left. -/
theorem found_mem (enough : s.found.bondPhyPortFreeNum ≥ 1) : s.found ∈ s.merged := by
  rcases getBondSchResult_mem s.merged {} with empty | member
  · rw [BondServing.found, empty] at enough
    change (0 : ℤ) ≥ 1 at enough
    omega
  · exact member

/-- A row of the bonds of a group, up to date once it is merged. -/
structure Offered (inv : Inventory) (alloc : Alloc) (kept rows : List CDbSchedule)
    (row : CDbSchedule) : Prop where
  stale : BondStale inv alloc kept row
  named : row.switchUuid ≠ ""
  own : ∃ old ∈ rows, old.switchUuid = row.switchUuid

/-- The book of the bonds with the two lists that are kept of them. -/
structure Books (inv : Inventory) (alloc : Alloc) (vecDBUpdate vecDbBond : List CDbSchedule) :
    Prop where
  book : Book inv alloc
  update : ∀ u ∈ vecDBUpdate, u.Whole ∧ u.Even
  updates : BondTracks inv alloc vecDBUpdate
  bonds : BondTracks inv alloc vecDbBond

/-- What the loop over the vNICs for bonds keeps. -/
structure BondServing.Inv (inv : Inventory) (vnics : List ℕ) (rows : List CDbSchedule)
    (start : Alloc) (s : BondServing) : Prop where
  group : start.InGroup vnics rows s.alloc
  left : s.left = (s.alloc.waiting vnics).length
  books : Books inv s.alloc s.vecDBUpdate s.vecDbBond
  sch : ∀ row ∈ s.vecDBBondSch, Offered inv s.alloc s.vecDbBond rows row

theorem BondServing.Inv.merged_right (holds : s.Inv inv vnics rows start) :
    ∀ row ∈ s.merged, BondRight inv s.alloc row ∧ row.switchUuid ≠ "" ∧
      ∃ old ∈ rows, old.switchUuid = row.switchUuid := by
  intro row member
  obtain ⟨old, inside, rfl⟩ := List.mem_map.mp member
  have offered := holds.sch old inside
  have switch := (sameKeys_mergeRow old s.vecDbBond).switchUuid
  rw [switch]
  exact ⟨mergeRow_right holds.books.bonds offered.stale, offered.named, offered.own⟩

theorem BondServing.Inv.merge (holds : s.Inv inv vnics rows start) :
    BondServing.Inv inv vnics rows start { s with vecDBBondSch := s.merged } where
  group := holds.group
  left := holds.left
  books := holds.books
  sch row member := by
    obtain ⟨right, named, own⟩ := holds.merged_right row member
    exact ⟨right.stale, named, own⟩

theorem BondServing.Inv.give (nodup : vnics.Nodup)
    (holds : s.Inv inv vnics rows start) (member : nic ∈ vnics)
    (free : s.alloc.vSwitchUuid nic = "") (enough : s.found.bondPhyPortFreeNum ≥ 1)
    (number : s.found.switchSriovFreeNum ≥ 1) : (s.give nic).Inv inv vnics rows start := by
  obtain ⟨right, named, own⟩ := holds.merged_right s.found (found_mem enough)
  have took := taken_takeBond s.found
  have room : s.alloc.used s.found.switchUuid + 1 ≤ inv.switchFree s.found.switchUuid := by
    have left := right.switch.sriov
    omega
  obtain ⟨whole, even⟩ := taken_whole right enough took room
  have count := @waiting_give s.alloc nic (takeBond s.found)
    (some (takeBond s.found).bondPhyPortUuid) vnics nodup member (holds.group.fresh free)
  have left := holds.left
  refine ⟨?_, ?_, ⟨?_, ?_, ?_, ?_⟩, ?_⟩
  · exact (holds.group.give (c := takeBond s.found) member free named own whole).recordSriov
  · change s.left - 1 = _
    change _ = (((s.alloc.give nic (takeBond s.found)
      (some (takeBond s.found).bondPhyPortUuid)).waiting vnics).length : ℤ)
    omega
  · exact holds.books.book.give right enough took room
  · exact merges_wholeEven.updateDBRes holds.books.update ⟨whole, even⟩
  · exact holds.books.updates.give right took
  · exact holds.books.bonds.give right took
  · intro row inside
    obtain ⟨rightRow, namedRow, ownRow⟩ := holds.merged_right row inside
    exact ⟨right_give rightRow right took (updateDBRes_covers s.vecDbBond _), namedRow, ownRow⟩

theorem serveBond_inv (nodup : vnics.Nodup) (holds : s.Inv inv vnics rows start)
    (takes : ∀ row ∈ bondTakes vnics s, row.switchSriovFreeNum ≥ 1) :
    (serveBond vnics s).Inv inv vnics rows start :=
  serveBond_keeps (fun _ => BondServing.Inv.merge)
    (fun _ _ member holds free enough number => holds.give nodup member free enough number) holds
    takes

/-- A switch without a bond is left alone by the vNICs on bonds. -/
theorem serveBond_plain (nodup : vnics.Nodup) {t : String} (plain : inv.members t = [])
    (holds : s.Inv inv vnics rows start)
    (takes : ∀ row ∈ bondTakes vnics s, row.switchSriovFreeNum ≥ 1) :
    (serveBond vnics s).alloc.used t = s.alloc.used t ∧
      ∀ free, Tracks edvsRule free t s.alloc s.vecDBUpdate →
        Tracks edvsRule free t (serveBond vnics s).alloc (serveBond vnics s).vecDBUpdate := by
  refine (@serveBond_keeps vnics s (fun row => row.switchSriovFreeNum ≥ 1) (fun after =>
    after.Inv inv vnics rows start ∧ after.alloc.used t = s.alloc.used t ∧
      ∀ free, Tracks edvsRule free t s.alloc s.vecDBUpdate →
        Tracks edvsRule free t after.alloc after.vecDBUpdate)
    (fun _ both => ⟨both.1.merge, both.2⟩) ?_ ⟨holds, rfl, fun _ => id⟩ takes).2
  intro after nic member both unassigned enough number
  obtain ⟨right, -, -⟩ := both.1.merged_right after.found (found_mem enough)
  have other : (takeBond after.found).switchUuid ≠ t := by
    intro same
    have bond := members_ne_nil right.member
    exact bond (same ▸ plain)
  have used : (after.give nic).alloc.used t = after.alloc.used t :=
    (used_giveBond t).trans (by rw [if_neg other, Nat.add_zero])
  exact ⟨both.1.give nodup member unassigned enough number, used.trans both.2.1,
    fun free tracks => (both.2.2 free tracks).give_other other used⟩

end Bonds

section Groups

variable {inv : Inventory} {rule : RowRule} {p : CDbSchedule → Prop} {isLoop : Bool}
  {group : CReqNumInfo} {rest : List CReqNumInfo} {start : Alloc}
  {todo vecDBUpdate vecDbBond : List CDbSchedule} {pr : Progress}
  {result : Alloc × List CDbSchedule}

theorem serving_frame (lawful : rule.Lawful p) {s : Serving} {nic : ℕ}
    (plain : inv.members s.row.switchUuid = []) :
    BondFrame inv s.alloc (s.give rule nic).alloc := by
  refine ⟨fun t bond => ?_, usedPort_serving⟩
  have other : (rule.take s.row).switchUuid ≠ t := by
    intro same
    rw [(lawful.keys s.row).switchUuid] at same
    exact bond (same ▸ plain)
  rw [used_serving, if_neg other, Nat.add_zero]

/-- A vNIC on a switch without a bond leaves the books as they are. -/
theorem Books.serving (lawful : rule.Lawful fun row => row.Whole ∧ row.Even) {s : Serving}
    {nic : ℕ} (books : Books inv s.alloc s.vecDBUpdate vecDbBond)
    (row : s.row.Whole ∧ s.row.Even) (plain : inv.members s.row.switchUuid = [])
    (enough : rule.free s.row ≥ 1) :
    Books inv (s.give rule nic).alloc (s.give rule nic).vecDBUpdate vecDbBond := by
  have switch := (lawful.keys s.row).switchUuid
  have frame := @serving_frame inv rule _ lawful s nic plain
  refine ⟨books.book.frame frame, ?_, ?_, books.bonds.frame frame⟩
  · exact lawful.merges.updateDBRes books.update (lawful.keeps s.row row enough)
  · exact (books.updates.update_other (switch.symm ▸ plain)).frame frame

theorem BondFrame.trans {alloc after last : Alloc} (first : BondFrame inv alloc after)
    (second : BondFrame inv after last) : BondFrame inv alloc last where
  used t bond := (second.used t bond).trans (first.used t bond)
  ports q := (second.ports q).trans (first.ports q)

/-- The loop over rows without a bond leaves the books of the bonds as they are. -/
theorem serveRows_books (lawful : rule.Lawful fun row => row.Whole ∧ row.Even)
    (plain : ∀ row ∈ todo, (row.Whole ∧ row.Even) ∧ inv.members row.switchUuid = [])
    (books : Books inv pr.alloc pr.vecDBUpdate vecDbBond) :
    Books inv (serveRows rule isLoop group todo pr).alloc
        (serveRows rule isLoop group todo pr).vecDBUpdate vecDbBond ∧
      BondFrame inv pr.alloc (serveRows rule isLoop group todo pr).alloc := by
  refine @serveRows_keeps rule isLoop group todo pr (fun after =>
    Books inv after.alloc after.vecDBUpdate vecDbBond ∧ BondFrame inv pr.alloc after.alloc) ?_
    ⟨books, fun _ _ => rfl, fun _ => rfl⟩
  intro row member after both
  have kept := @serveRow_keeps rule group.setVnicIter (after.serving row)
    (fun s => (Books inv s.alloc s.vecDBUpdate vecDbBond ∧ BondFrame inv pr.alloc s.alloc) ∧
      (s.row.Whole ∧ s.row.Even) ∧ inv.members s.row.switchUuid = []) ?_
    ⟨both, plain row member⟩
  · exact kept.1
  · intro s nic _ kept _ enough
    exact ⟨⟨kept.1.1.serving lawful kept.2.1 kept.2.2 enough,
      kept.1.2.trans (serving_frame lawful kept.2.2)⟩, lawful.keeps s.row kept.2.1 enough,
      (lawful.keys s.row).switchUuid.symm ▸ kept.2.2⟩

def plainRows (group : CReqNumInfo) (vecDBUpdate : List CDbSchedule) : List CDbSchedule :=
  (mergeAllocDBResult group.vecSchResult vecDBUpdate).filter fun row =>
    ¬ row.isBondNic ∧ row.switchSriovFreeNum ≠ 0

def bondRows (group : CReqNumInfo) (vecDBUpdate : List CDbSchedule) : List CDbSchedule :=
  (mergeAllocDBResult group.vecSchResult vecDBUpdate).filter fun row =>
    row.isBondNic ∧ row.bondPhyPortFreeNum ≠ 0

/-- The two parts of `GetEDVSRes` for one group. -/
def edvsPlain (isLoop : Bool) (group : CReqNumInfo) (alloc : Alloc)
    (vecDBUpdate : List CDbSchedule) : Progress :=
  serveRows edvsRule isLoop group (plainRows group vecDBUpdate)
    ⟨alloc, vecDBUpdate, group.nSourceNum⟩

def edvsBond (group : CReqNumInfo) (vecDBUpdate vecDbBond : List CDbSchedule)
    (pr : Progress) : BondServing :=
  if bondRows group vecDBUpdate = [] ∨ pr.left = 0 then
    ⟨pr.alloc, pr.vecDBUpdate, vecDbBond, bondRows group vecDBUpdate, pr.left⟩
  else serveBond group.setVnicIter
    ⟨pr.alloc, pr.vecDBUpdate, vecDbBond, bondRows group vecDBUpdate, pr.left⟩

/-- The rows of bonds from which the second part takes a port. -/
def edvsBondTakes (group : CReqNumInfo) (vecDBUpdate vecDbBond : List CDbSchedule)
    (pr : Progress) : List CDbSchedule :=
  if bondRows group vecDBUpdate = [] ∨ pr.left = 0 then []
  else bondTakes group.setVnicIter
    ⟨pr.alloc, pr.vecDBUpdate, vecDbBond, bondRows group vecDBUpdate, pr.left⟩

/-- The rows without a bond that are served for all groups. -/
def edvsOffers (isLoop : Bool) :
    List CReqNumInfo → Alloc → List CDbSchedule → List CDbSchedule → List Offer
  | [], _, _, _ => []
  | group :: groups, alloc, vecDBUpdate, vecDbBond =>
      let pr := edvsPlain isLoop group alloc vecDBUpdate
      let s := edvsBond group vecDBUpdate vecDbBond pr
      rowOffers edvsRule isLoop group (plainRows group vecDBUpdate)
          ⟨alloc, vecDBUpdate, group.nSourceNum⟩ ++
        edvsOffers isLoop groups s.alloc s.vecDBUpdate s.vecDbBond

/-- The rows of bonds from which a port is taken for all groups. -/
def edvsTakes (isLoop : Bool) :
    List CReqNumInfo → Alloc → List CDbSchedule → List CDbSchedule → List CDbSchedule
  | [], _, _, _ => []
  | group :: groups, alloc, vecDBUpdate, vecDbBond =>
      let pr := edvsPlain isLoop group alloc vecDBUpdate
      let s := edvsBond group vecDBUpdate vecDbBond pr
      edvsBondTakes group vecDBUpdate vecDbBond pr ++
        edvsTakes isLoop groups s.alloc s.vecDBUpdate s.vecDbBond

theorem edvsGroups_cons
    (done : edvsGroups isLoop (group :: rest) start vecDBUpdate vecDbBond = .ok result) :
    ∃ pr s, pr = edvsPlain isLoop group start vecDBUpdate ∧
      s = edvsBond group vecDBUpdate vecDbBond pr ∧ s.left = 0 ∧
      edvsGroups isLoop rest s.alloc s.vecDBUpdate s.vecDbBond = .ok result := by
  refine ⟨_, _, rfl, rfl, ?_⟩
  change (if (edvsBond group vecDBUpdate vecDbBond
      (edvsPlain isLoop group start vecDBUpdate)).left ≠ 0 then _ else _) = _ at done
  split at done
  · cases done
  · rename_i left
    exact ⟨not_not.mp left, done⟩

/-- The rows of a group, as the inventory has them. -/
def CReqNumInfo.ReadFrom (inv : Inventory) (group : CReqNumInfo) : Prop :=
  ∀ row ∈ group.vecSchResult, FromInv inv row

theorem CReqNumInfo.ReadFrom.read (read : group.ReadFrom inv) :
    Read (fun row => row.Whole ∧ row.Even) group :=
  fun row member => ⟨(read row member).wholeEven, (read row member).named⟩

theorem plainRows_plain (read : group.ReadFrom inv)
    (update : ∀ u ∈ vecDBUpdate, u.Whole ∧ u.Even) :
    ∀ row ∈ plainRows group vecDBUpdate,
      Usable (fun row => row.Whole ∧ row.Even) group.vecSchResult row ∧
        inv.members row.switchUuid = [] := by
  intro row member
  obtain ⟨merged, chosen⟩ := List.mem_filter.mp member
  refine ⟨usable_merged merges_wholeEven read.read update row merged, ?_⟩
  obtain ⟨old, inside, rfl⟩ := List.mem_map.mp merged
  have keys := sameKeys_mergeRow old vecDBUpdate
  have plain := (of_decide_eq_true chosen).1
  rw [keys.isBondNic, Bool.not_eq_true] at plain
  rw [keys.switchUuid]
  exact ((read old inside).plain plain).1

theorem bondRows_right (read : group.ReadFrom inv) (tracks : BondTracks inv start vecDBUpdate) :
    ∀ row ∈ bondRows group vecDBUpdate, BondRight inv start row ∧ row.switchUuid ≠ "" ∧
      ∃ old ∈ group.vecSchResult, old.switchUuid = row.switchUuid := by
  intro row member
  obtain ⟨merged, chosen⟩ := List.mem_filter.mp member
  obtain ⟨old, inside, rfl⟩ := List.mem_map.mp merged
  have keys := sameKeys_mergeRow old vecDBUpdate
  have bond := (of_decide_eq_true chosen).1
  rw [keys.isBondNic] at bond
  rw [keys.switchUuid]
  exact ⟨(read old inside).merged bond tracks, (read old inside).named, old, inside, rfl⟩

/-- The first part of a group, and what it leaves of the books. -/
theorem edvsPlain_inv (read : group.ReadFrom inv) (good : start.Good)
    (disjoint : Disjoint start (group :: rest))
    (books : Books inv start vecDBUpdate vecDbBond)
    (same : pr = edvsPlain isLoop group start vecDBUpdate) :
    pr.Inv (fun row => row.Whole ∧ row.Even) group.setVnicIter group.vecSchResult start ∧
      Books inv pr.alloc pr.vecDBUpdate vecDbBond ∧ BondFrame inv start pr.alloc := by
  have plain := plainRows_plain read books.update
  have begun := progress_begin good disjoint books.update
  subst same
  refine ⟨?_, ?_⟩
  · exact serveRows_inv edvsRule_lawful disjoint.head.1 (fun row member => (plain row member).1)
      begun
  · have each : ∀ row ∈ plainRows group vecDBUpdate,
        (row.Whole ∧ row.Even) ∧ inv.members row.switchUuid = [] :=
      fun row member => ⟨(plain row member).1.keeps, (plain row member).2⟩
    exact @serveRows_books inv edvsRule isLoop group _ vecDbBond
      ⟨start, vecDBUpdate, group.nSourceNum⟩ edvsRule_lawful each books

variable {s : BondServing}

/-- The second part of a group begins as the first one ends. -/
theorem edvsBond_begin (read : group.ReadFrom inv) (tracks : BondTracks inv start vecDBUpdate)
    (first : pr.Inv (fun row => row.Whole ∧ row.Even) group.setVnicIter group.vecSchResult start)
    (books : Books inv pr.alloc pr.vecDBUpdate vecDbBond) (frame : BondFrame inv start pr.alloc) :
    BondServing.Inv inv group.setVnicIter group.vecSchResult start
      ⟨pr.alloc, pr.vecDBUpdate, vecDbBond, bondRows group vecDBUpdate, pr.left⟩ where
  group := first.group
  left := first.left
  books := books
  sch row member := by
    obtain ⟨right, named, own⟩ := bondRows_right read tracks row member
    exact ⟨(right.frame frame).stale, named, own⟩

variable {Q : CDbSchedule → Prop}

theorem edvsBond_keeps {P : BondServing → Prop}
    (begun : P ⟨pr.alloc, pr.vecDBUpdate, vecDbBond, bondRows group vecDBUpdate, pr.left⟩)
    (loop : ∀ s, P s → (∀ row ∈ bondTakes group.setVnicIter s, Q row) →
      P (serveBond group.setVnicIter s))
    (takes : ∀ row ∈ edvsBondTakes group vecDBUpdate vecDbBond pr, Q row) :
    P (edvsBond group vecDBUpdate vecDbBond pr) := by
  unfold edvsBond
  unfold edvsBondTakes at takes
  split
  · exact begun
  · rename_i some
    rw [if_neg some] at takes
    exact loop _ begun takes

theorem edvsGroup_grows (first : pr = edvsPlain isLoop group start vecDBUpdate)
    (second : s = edvsBond group vecDBUpdate vecDbBond pr) :
    start.Grows group.setVnicIter s.alloc := by
  subst first second
  have plain : start.Grows group.setVnicIter (edvsPlain isLoop group start vecDBUpdate).alloc :=
    serveRows_grows grows_refl
  exact @edvsBond_keeps group vecDBUpdate vecDbBond _ (fun _ => True)
    (fun s => start.Grows group.setVnicIter s.alloc) plain
    (fun _ grows _ => serveBond_grows (fun _ => id) grows) fun _ _ => trivial

theorem edvsGroup_written (second : s = edvsBond group vecDBUpdate vecDbBond pr) :
    ∀ row ∈ edvsBondTakes group vecDBUpdate vecDbBond pr, takeBond row ∈ s.alloc.written := by
  subst second
  unfold edvsBond edvsBondTakes
  split
  · exact fun _ => (nomatch ·)
  · exact serveBond_written

/-- What one group comes to. -/
theorem edvsGroup_inv (read : group.ReadFrom inv) (good : start.Good)
    (disjoint : Disjoint start (group :: rest)) (books : Books inv start vecDBUpdate vecDbBond)
    (first : pr = edvsPlain isLoop group start vecDBUpdate)
    (second : s = edvsBond group vecDBUpdate vecDbBond pr)
    (takes : ∀ row ∈ edvsBondTakes group vecDBUpdate vecDbBond pr,
      row.switchSriovFreeNum ≥ 1) :
    s.Inv inv group.setVnicIter group.vecSchResult start := by
  obtain ⟨holds, after, frame⟩ := edvsPlain_inv read good disjoint books first
  subst second
  exact edvsBond_keeps (edvsBond_begin read books.updates holds after frame)
    (fun _ => serveBond_inv disjoint.head.1) takes

/-- The second part leaves a switch without a bond alone. -/
theorem edvsGroup_plain (read : group.ReadFrom inv) (good : start.Good)
    (disjoint : Disjoint start (group :: rest)) (books : Books inv start vecDBUpdate vecDbBond)
    (first : pr = edvsPlain isLoop group start vecDBUpdate)
    (second : s = edvsBond group vecDBUpdate vecDbBond pr)
    (takes : ∀ row ∈ edvsBondTakes group vecDBUpdate vecDbBond pr,
      row.switchSriovFreeNum ≥ 1) {t : String} (plain : inv.members t = []) :
    s.alloc.used t = pr.alloc.used t ∧
      ∀ free, Tracks edvsRule free t pr.alloc pr.vecDBUpdate →
        Tracks edvsRule free t s.alloc s.vecDBUpdate := by
  obtain ⟨holds, after, frame⟩ := edvsPlain_inv read good disjoint books first
  have begun := edvsBond_begin read books.updates holds after frame
  subst second
  refine (@edvsBond_keeps group vecDBUpdate vecDbBond pr (fun row => row.switchSriovFreeNum ≥ 1)
    (fun s => s.Inv inv group.setVnicIter group.vecSchResult start ∧
      s.alloc.used t = pr.alloc.used t ∧
      ∀ free, Tracks edvsRule free t pr.alloc pr.vecDBUpdate →
        Tracks edvsRule free t s.alloc s.vecDBUpdate) ⟨begun, rfl, fun _ => id⟩ ?_ takes).2
  intro s both more
  obtain ⟨used, tracks⟩ := serveBond_plain disjoint.head.1 plain both.1 more
  exact ⟨serveBond_inv disjoint.head.1 both.1 more, used.trans both.2.1,
    fun free before => tracks free (both.2.2 free before)⟩

/-- The rows of a switch without a bond stay up to date, if a group has one of it. -/
theorem edvsPlain_tracks (read : group.ReadFrom inv) (good : start.Good)
    (disjoint : Disjoint start (group :: rest)) (books : Books inv start vecDBUpdate vecDbBond)
    (first : pr = edvsPlain isLoop group start vecDBUpdate) {t : String}
    (single : isLoop = true ∨
      (group.vecSchResult.filter fun row => row.switchUuid = t).length ≤ 1)
    (tracks : Tracks edvsRule (inv.switchFree t) t start vecDBUpdate) :
    Tracks edvsRule (inv.switchFree t) t pr.alloc pr.vecDBUpdate := by
  have usable := plainRows_plain read books.update
  have fewer : isLoop = true ∨
      ((plainRows group vecDBUpdate).filter fun row => row.switchUuid = t).length ≤ 1 := by
    refine single.imp id fun few => ?_
    rw [← single_merged group.vecSchResult vecDBUpdate t] at few
    exact Nat.le_trans ((List.filter_sublist.filter _).length_le) few
  have numbers : ∀ row ∈ group.vecSchResult, row.switchUuid = t →
      edvsRule.free row = inv.switchFree t := by
    intro row member same
    exact (read row member).sriov.trans (by rw [same])
  rw [first]
  exact serveRows_tracks edvsRule_lawful disjoint.head.1
    (fun row member => (usable row member).1)
    (progress_begin good disjoint books.update) fewer tracks
    fun row member => tracks.merged edvsRule_lawful numbers row (List.mem_filter.mp member).1

/-- Loop ports only have rows without a bond, so that a group is on one switch. -/
theorem edvsGroup_loop (loop : isLoop = true) (read : group.ReadFrom inv) (good : start.Good)
    (disjoint : Disjoint start (group :: rest)) (books : Books inv start vecDBUpdate vecDbBond)
    (plain : ∀ row ∈ group.vecSchResult, row.isBondNic = false)
    (first : pr = edvsPlain isLoop group start vecDBUpdate)
    (second : s = edvsBond group vecDBUpdate vecDbBond pr) : group.OneSwitch s.alloc := by
  have none : bondRows group vecDBUpdate = [] := by
    apply List.filter_eq_nil_iff.mpr
    intro row member
    obtain ⟨old, inside, rfl⟩ := List.mem_map.mp member
    rw [decide_eq_true_eq, (sameKeys_mergeRow old vecDBUpdate).isBondNic, plain old inside]
    exact fun both => nomatch both.1
  rw [second, edvsBond, if_pos (Or.inl none), first]
  exact serveRows_loop loop edvsRule_lawful
    (fun row member => (plainRows_plain read books.update row member).1)
    (progress_begin good disjoint books.update) disjoint.head.2

variable {groups : List CReqNumInfo}

/-- What the single vNICs with SR-IOV come to, over all groups, if no port is taken of a switch
that has none left. -/
theorem edvsGroups_result (good : start.Good) (disjoint : Disjoint start groups)
    (read : ∀ group ∈ groups, group.ReadFrom inv)
    (books : Books inv start vecDBUpdate vecDbBond)
    (loops : isLoop = true → ∀ group ∈ groups, ∀ row ∈ group.vecSchResult,
      row.isBondNic = false)
    (takes : ∀ row ∈ edvsTakes isLoop groups start vecDBUpdate vecDbBond,
      row.switchSriovFreeNum ≥ 1)
    (done : edvsGroups isLoop groups start vecDBUpdate vecDbBond = .ok result) :
    KindResult groups start result.1 ∧ Book inv result.1 ∧ BondTracks inv result.1 result.2 ∧
      (isLoop = true → ∀ group ∈ groups, group.OneSwitch result.1) := by
  induction groups generalizing start vecDBUpdate vecDbBond with
  | nil =>
      cases done
      exact ⟨kindResult_nil good, books.book, books.bonds, fun _ _ => (nomatch ·)⟩
  | cons group rest ih =>
      rw [List.forall_mem_cons] at read
      obtain ⟨pr, s, first, second, left, later⟩ := edvsGroups_cons done
      rw [edvsTakes, List.forall_mem_append, ← first, ← second] at takes
      have holds := edvsGroup_inv read.1 good disjoint books first second takes.1
      have served := holds.group.servedAll disjoint holds.left left
      obtain ⟨kind, book, tracks, ones⟩ := ih holds.group.good (disjoint.tail holds.group) read.2
        holds.books (fun loop group member => loops loop group (List.mem_cons_of_mem _ member))
        takes.2 later
      refine ⟨kind.cons holds.group served, book, tracks, fun loop => ?_⟩
      have one := edvsGroup_loop loop read.1 good disjoint books
        (loops loop group List.mem_cons_self) first second
      rw [List.forall_mem_cons]
      exact ⟨one.mono served holds.group.good kind.good kind.grows, ones loop⟩

/-- The switches without a bond that are named by one row of each group. -/
theorem edvsGroups_tracks {t : String} (plain : inv.members t = []) (good : start.Good)
    (disjoint : Disjoint start groups) (read : ∀ group ∈ groups, group.ReadFrom inv)
    (books : Books inv start vecDBUpdate vecDbBond)
    (single : isLoop = true ∨ ∀ group ∈ groups,
      (group.vecSchResult.filter fun row => row.switchUuid = t).length ≤ 1)
    (tracks : Tracks edvsRule (inv.switchFree t) t start vecDBUpdate)
    (takes : ∀ row ∈ edvsTakes isLoop groups start vecDBUpdate vecDbBond,
      row.switchSriovFreeNum ≥ 1)
    (done : edvsGroups isLoop groups start vecDBUpdate vecDbBond = .ok result) :
    result.1.used t ≤ inv.switchFree t := by
  induction groups generalizing start vecDBUpdate vecDbBond with
  | nil =>
      cases done
      exact tracks.bound
  | cons group rest ih =>
      rw [List.forall_mem_cons] at read single
      obtain ⟨pr, s, first, second, -, later⟩ := edvsGroups_cons done
      rw [edvsTakes, List.forall_mem_append, ← first, ← second] at takes
      have holds := edvsGroup_inv read.1 good disjoint books first second takes.1
      have kept := edvsPlain_tracks read.1 good disjoint books first (single.imp id And.left)
        tracks
      have alone := edvsGroup_plain read.1 good disjoint books first second takes.1 plain
      exact ih holds.group.good (disjoint.tail holds.group) read.2 holds.books
        (single.imp id And.right) (alone.2 _ kept) takes.2 later

/-- A switch without a bond is not overdrawn if and only if all its rows were backed. -/
theorem edvsGroups_used {t : String} {free : ℕ} (plain : inv.members t = []) (good : start.Good)
    (disjoint : Disjoint start groups) (read : ∀ group ∈ groups, group.ReadFrom inv)
    (books : Books inv start vecDBUpdate vecDbBond)
    (takes : ∀ row ∈ edvsTakes isLoop groups start vecDBUpdate vecDbBond,
      row.switchSriovFreeNum ≥ 1)
    (done : edvsGroups isLoop groups start vecDBUpdate vecDbBond = .ok result) :
    result.1.used t ≤ free ↔ start.used t ≤ free ∧
      ∀ offer ∈ edvsOffers isLoop groups start vecDBUpdate vecDbBond,
        offer.row.switchUuid = t → offer.Backed edvsRule free := by
  induction groups generalizing start vecDBUpdate vecDbBond with
  | nil =>
      cases done
      simp [edvsOffers]
  | cons group rest ih =>
      rw [List.forall_mem_cons] at read
      obtain ⟨pr, s, first, second, -, later⟩ := edvsGroups_cons done
      rw [edvsTakes, List.forall_mem_append, ← first, ← second] at takes
      have holds := edvsGroup_inv read.1 good disjoint books first second takes.1
      have alone := edvsGroup_plain read.1 good disjoint books first second takes.1 plain
      have usable := plainRows_plain read.1 books.update
      have head := @serveRows_used edvsRule _ free t isLoop group _ _
        ⟨start, vecDBUpdate, group.nSourceNum⟩ edvsRule_lawful disjoint.head.1
        fun row member => (usable row member).1
      have same : serveRows edvsRule isLoop group (plainRows group vecDBUpdate)
          ⟨start, vecDBUpdate, group.nSourceNum⟩ = pr := first.symm
      rw [same] at head
      rw [ih holds.group.good (disjoint.tail holds.group) read.2 holds.books takes.2 later,
        alone.1, head, and_assoc, edvsOffers, List.forall_mem_append, ← first, ← second]

/-- Who is set had no switch before, whatever the rows are. -/
theorem edvsGroups_grows
    (done : edvsGroups isLoop groups start vecDBUpdate vecDbBond = .ok result) :
    start.Grows (groups.flatMap CReqNumInfo.setVnicIter) result.1 := by
  induction groups generalizing start vecDBUpdate vecDbBond with
  | nil =>
      cases done
      exact grows_refl
  | cons group rest ih =>
      obtain ⟨pr, s, first, second, -, later⟩ := edvsGroups_cons done
      exact (edvsGroup_grows first second).trans (ih later)

theorem edvsGroups_written
    (done : edvsGroups isLoop groups start vecDBUpdate vecDbBond = .ok result) :
    ∀ row ∈ edvsTakes isLoop groups start vecDBUpdate vecDbBond,
      takeBond row ∈ result.1.written := by
  induction groups generalizing start vecDBUpdate vecDbBond with
  | nil => exact fun _ => (nomatch ·)
  | cons group rest ih =>
      obtain ⟨pr, s, first, second, -, later⟩ := edvsGroups_cons done
      rw [edvsTakes, List.forall_mem_append, ← first, ← second]
      exact ⟨fun row member =>
        (edvsGroups_grows later).written.subset (edvsGroup_written second row member), ih later⟩

end Groups

end Tecs.VnmSchedule
