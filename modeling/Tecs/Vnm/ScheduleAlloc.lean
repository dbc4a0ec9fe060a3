import Tecs.Vnm.ScheduleInfo

set_option autoImplicit false

/-! The allocation of switches to the vNICs of one schedule. -/

namespace Tecs.VnmSchedule

inductive ScheduleError
  | failedNoResource | callScheduleDbFail | allotSdvsresFail | noEdvsRes | noEdvsBondRes
  | getLoopDeployedFailed | loopDeployedInfoInvalid | loopDeployedConflict
deriving Repr, DecidableEq

section Inventory

/-- What the procedures are asked for, but for what is the same for the whole schedule. -/
structure QueryInput where
  isBondNic : Bool
  isVxlan : Bool
  nicNum : ℤ
  mtu : ℤ
deriving Repr, DecidableEq

/-- A switch with its uplink port, and for a bond with one of the physical ports of it. -/
structure Listing where
  switchUuid : String
  portUuid : String
  bondPhyPortUuid : String
deriving Repr, DecidableEq

structure CDbDeplySummary where
  vnaUuid : String
  switchUuid : String
  portUuid : String
deriving Repr, DecidableEq

/-- The resources as the database has them. A switch on a bond has the physical ports of it as
`members`. -/
structure Inventory where
  switchFree : String → ℕ
  portFree : String → ℕ
  bondValid : String → ℕ
  members : String → List String
  proc : QueryInput → Option (List Listing)
  queryDeployByProjectLn : String → Option (List CDbDeplySummary)
  member_unique : ∀ s s' p, p ∈ members s → p ∈ members s' → s = s'
  named : ∀ input listings, proc input = some listings → ∀ l ∈ listings, l.switchUuid ≠ ""
  bonded : ∀ input listings, proc input = some listings → input.isBondNic = true →
    ∀ l ∈ listings, l.bondPhyPortUuid ∈ members l.switchUuid
  unbonded : ∀ input listings, proc input = some listings → input.isBondNic = false →
    ∀ l ∈ listings, members l.switchUuid = []
  deployed : ∀ network found, queryDeployByProjectLn network = some found →
    ∀ d ∈ found, d.switchUuid ≠ ""

/-- A row of the answer: both numbers of a switch are the one that the view has for it. -/
def Inventory.row (inv : Inventory) (isBondNic : Bool) (l : Listing) : CDbSchedule where
  isBondNic := isBondNic
  switchUuid := l.switchUuid
  portUuid := l.portUuid
  switchSriovFreeNum := inv.switchFree l.switchUuid
  switchFreeNum := inv.switchFree l.switchUuid
  bondValidPhyPortNum := if isBondNic then inv.bondValid l.switchUuid else 0
  bondPhyPortUuid := if isBondNic then l.bondPhyPortUuid else ""
  bondPhyPortFreeNum := if isBondNic then inv.portFree l.bondPhyPortUuid else 0

def Inventory.scheduleProc (inv : Inventory) (input : QueryInput) : Option (List CDbSchedule) :=
  (inv.proc input).map fun listings => listings.map (inv.row input.isBondNic)

/-- Single vNICs with SR-IOV may go to switches without and with a bond. -/
def Inventory.schedule (inv : Inventory) (isSriov isLoop : Bool) (input : QueryInput) :
    Option (List CDbSchedule) :=
  if isSriov && !input.isBondNic && !isLoop then do
    let outInfo ← inv.scheduleProc input
    let vTmp ← inv.scheduleProc { input with isBondNic := true, nicNum := 1 }
    some (outInfo ++ vTmp)
  else inv.scheduleProc input

end Inventory

section Rows

variable (row new : CDbSchedule)

def CDbSchedule.setSwitchNums : CDbSchedule :=
  { row with
    switchFreeNum := new.switchFreeNum
    switchSriovFreeNum := new.switchSriovFreeNum
    bondValidPhyPortNum := new.bondValidPhyPortNum }

def CDbSchedule.setPortNum : CDbSchedule :=
  { row with bondPhyPortFreeNum := new.bondPhyPortFreeNum }

/-- The inner loop of `MergeAllocDBResult`. -/
def mergeRow : CDbSchedule → List CDbSchedule → CDbSchedule
  | old, [] => old
  | old, new :: rest =>
      if new.switchUuid = old.switchUuid then
        if new.bondPhyPortUuid = old.bondPhyPortUuid then (old.setSwitchNums new).setPortNum new
        else mergeRow (old.setSwitchNums new) rest
      else mergeRow old rest

def mergeAllocDBResult (vecOldSch vecNewSch : List CDbSchedule) : List CDbSchedule :=
  vecOldSch.map fun old => mergeRow old vecNewSch

def updateRow (cDbSch itrNew : CDbSchedule) : CDbSchedule :=
  if itrNew.switchUuid = cDbSch.switchUuid then
    if itrNew.bondPhyPortUuid = cDbSch.bondPhyPortUuid then
      (itrNew.setSwitchNums cDbSch).setPortNum cDbSch
    else itrNew.setSwitchNums cDbSch
  else itrNew

def updateDBRes (vecNewSch : List CDbSchedule) (cDbSch : CDbSchedule) : List CDbSchedule :=
  let updated := vecNewSch.map (updateRow cDbSch)
  if updated.any fun itrNew => itrNew.switchUuid = cDbSch.switchUuid ∧
      itrNew.bondPhyPortUuid = cDbSch.bondPhyPortUuid then updated
  else updated ++ [cDbSch]

def getBondSchResult (vecRawDB : List CDbSchedule) (cMaxDB : CDbSchedule) : CDbSchedule :=
  vecRawDB.foldl (fun cMaxDB itrDB =>
    if cMaxDB.switchUuid = "" then if itrDB.bondPhyPortFreeNum ≠ 0 then itrDB else cMaxDB
    else if itrDB.switchUuid = cMaxDB.switchUuid ∧
        itrDB.bondPhyPortFreeNum > cMaxDB.bondPhyPortFreeNum then itrDB
    else cMaxDB) cMaxDB

end Rows

section Allocation

/-- One vNIC set on a switch, through a physical port of the bond if the row is one of a bond. -/
structure Grant where
  nic : ℕ
  switchUuid : String
  bondPort : Option String
deriving Repr, DecidableEq

/-- The switches of the vNICs, the physical ports with their vNICs, and as a history who was
given what and the rows as they were written with each. -/
structure Alloc where
  vSwitchUuid : ℕ → String
  mapVnicSriov : List (String × ℕ)
  given : List Grant
  written : List CDbSchedule

def Alloc.recordSriov (alloc : Alloc) (port : String) (nic : ℕ) : Alloc :=
  { alloc with mapVnicSriov := alloc.mapVnicSriov.insert (port, nic) }

/-- A vNIC is set on the switch of a row, which is the row after it. -/
def Alloc.give (alloc : Alloc) (nic : ℕ) (row : CDbSchedule) (bondPort : Option String) : Alloc :=
  { alloc with
    vSwitchUuid := Function.update alloc.vSwitchUuid nic row.switchUuid
    given := alloc.given ++ [⟨nic, row.switchUuid, bondPort⟩]
    written := alloc.written ++ [row] }

/-- What the loops over the rows without a bond differ in: the number they look at, what they
take, and the port that is noted for the vNIC. -/
structure RowRule where
  free : CDbSchedule → ℤ
  take : CDbSchedule → CDbSchedule
  port : CDbSchedule → Option String

def sdvsRule : RowRule where
  free row := row.switchFreeNum
  take row := { row with switchFreeNum := row.switchFreeNum - 1 }
  port _ := none

def edvsRule : RowRule where
  free row := row.switchSriovFreeNum
  take row :=
    { row with
      switchSriovFreeNum := row.switchSriovFreeNum - 1
      switchFreeNum := row.switchFreeNum - 1 }
  port row := some row.portUuid

/-- The state in the loop over the vNICs for one row: `left` is `nSourceNum`. -/
structure Serving where
  alloc : Alloc
  vecDBUpdate : List CDbSchedule
  row : CDbSchedule
  left : ℤ

def Serving.give (rule : RowRule) (s : Serving) (nic : ℕ) : Serving where
  alloc :=
    let alloc := s.alloc.give nic (rule.take s.row) none
    (rule.port s.row).elim alloc fun port => alloc.recordSriov port nic
  vecDBUpdate := updateDBRes s.vecDBUpdate (rule.take s.row)
  row := rule.take s.row
  left := s.left - 1

/-- A vNIC that has a switch is passed over, and the first one that finds nothing ends the row. -/
def serveRow (rule : RowRule) : List ℕ → Serving → Serving
  | [], s => s
  | nic :: rest, s =>
      if s.alloc.vSwitchUuid nic ≠ "" then serveRow rule rest s
      else if rule.free s.row ≥ 1 then serveRow rule rest (s.give rule nic)
      else s

structure Progress where
  alloc : Alloc
  vecDBUpdate : List CDbSchedule
  left : ℤ

/-- Loop ports go to the switch they are on already, and all of a group to one switch. -/
def serveRows (rule : RowRule) (isLoop : Bool) (group : CReqNumInfo) :
    List CDbSchedule → Progress → Progress
  | [], p => p
  | row :: rows, p =>
      if p.left = 0 then p
      else if isLoop ∧ ((group.strDeployedDvs ≠ "" ∧ group.strDeployedDvs ≠ row.switchUuid) ∨
          rule.free row < p.left) then
        serveRows rule isLoop group rows p
      else
        let s := serveRow rule group.setVnicIter ⟨p.alloc, p.vecDBUpdate, row, p.left⟩
        serveRows rule isLoop group rows ⟨s.alloc, s.vecDBUpdate, s.left⟩

def sdvsGroups (isLoop : Bool) :
    List CReqNumInfo → Alloc → List CDbSchedule → Except ScheduleError Alloc
  | [], alloc, _ => .ok alloc
  | group :: groups, alloc, vecDBUpdate =>
      let p := serveRows sdvsRule isLoop group
        (mergeAllocDBResult group.vecSchResult vecDBUpdate) ⟨alloc, vecDBUpdate, group.nSourceNum⟩
      if p.left ≠ 0 then .error .allotSdvsresFail
      else sdvsGroups isLoop groups p.alloc p.vecDBUpdate

def getSDVSRes (isLoop : Bool) (vecMTUNum : List CReqNumInfo) (alloc : Alloc) :
    Except ScheduleError Alloc :=
  sdvsGroups isLoop vecMTUNum alloc []

structure BondServing where
  alloc : Alloc
  vecDBUpdate : List CDbSchedule
  vecDbBond : List CDbSchedule
  vecDBBondSch : List CDbSchedule
  left : ℤ

def takeBond (row : CDbSchedule) : CDbSchedule :=
  { row with
    switchSriovFreeNum := row.switchSriovFreeNum - 1
    bondPhyPortFreeNum := row.bondPhyPortFreeNum - 1
    switchFreeNum := row.switchSriovFreeNum - 1 }

def Alloc.giveBond (alloc : Alloc) (nic : ℕ) (row : CDbSchedule) : Alloc :=
  (alloc.give nic row (some row.bondPhyPortUuid)).recordSriov row.bondPhyPortUuid nic

/-- The part of `GetEDVSRes` for the rows of bonds. -/
def serveBond : List ℕ → BondServing → BondServing
  | [], s => s
  | nic :: rest, s =>
      let rows := mergeAllocDBResult s.vecDBBondSch s.vecDbBond
      let cDbSch := getBondSchResult rows {}
      if s.alloc.vSwitchUuid nic ≠ "" ∨ ¬ cDbSch.bondPhyPortFreeNum ≥ 1 then
        serveBond rest { s with vecDBBondSch := rows }
      else
        serveBond rest
          { alloc := s.alloc.giveBond nic (takeBond cDbSch)
            vecDBUpdate := updateDBRes s.vecDBUpdate (takeBond cDbSch)
            vecDbBond := updateDBRes s.vecDbBond (takeBond cDbSch)
            vecDBBondSch := rows
            left := s.left - 1 }

def edvsGroups (isLoop : Bool) :
    List CReqNumInfo → Alloc → List CDbSchedule → List CDbSchedule →
      Except ScheduleError (Alloc × List CDbSchedule)
  | [], alloc, _, vecDbBond => .ok (alloc, vecDbBond)
  | group :: groups, alloc, vecDBUpdate, vecDbBond =>
      let rows := mergeAllocDBResult group.vecSchResult vecDBUpdate
      let vecDBSch := rows.filter fun row => ¬ row.isBondNic ∧ row.switchSriovFreeNum ≠ 0
      let vecDBBondSch := rows.filter fun row => row.isBondNic ∧ row.bondPhyPortFreeNum ≠ 0
      let p := serveRows edvsRule isLoop group vecDBSch ⟨alloc, vecDBUpdate, group.nSourceNum⟩
      let s : BondServing := ⟨p.alloc, p.vecDBUpdate, vecDbBond, vecDBBondSch, p.left⟩
      let s := if vecDBBondSch = [] ∨ p.left = 0 then s else serveBond group.setVnicIter s
      if s.left ≠ 0 then .error .noEdvsRes
      else edvsGroups isLoop groups s.alloc s.vecDBUpdate s.vecDbBond

def getEDVSRes (isLoop : Bool) (vecMTUNum : List CReqNumInfo) (alloc : Alloc)
    (vecDbBond : List CDbSchedule) : Except ScheduleError (Alloc × List CDbSchedule) :=
  edvsGroups isLoop vecMTUNum alloc [] vecDbBond

structure OutServing where
  alloc : Alloc
  vecDBUpdate : List CDbSchedule
  outInfo : List CDbSchedule

def takeMax (row : CDbSchedule) : CDbSchedule :=
  { takeBond row with
    bondValidPhyPortNum :=
      if row.bondPhyPortFreeNum - 1 = 0 then row.bondValidPhyPortNum - 1
      else row.bondValidPhyPortNum }

/-- The third step of `GetEDVSBondRes`: where no port is left, the row is an empty one. -/
def serveOut : List ℕ → OutServing → OutServing
  | [], s => s
  | nic :: rest, s =>
      if s.alloc.vSwitchUuid nic ≠ "" then serveOut rest s
      else
        let cMaxSch := takeMax
          ((s.outInfo.find? fun row => row.bondPhyPortFreeNum ≥ 1).getD {})
        serveOut rest
          { alloc := s.alloc.giveBond nic cMaxSch
            vecDBUpdate := updateDBRes s.vecDBUpdate cMaxSch
            outInfo := updateDBRes ((s.outInfo.eraseP fun row =>
              row.bondPhyPortUuid = cMaxSch.bondPhyPortUuid) ++ [cMaxSch]) cMaxSch }

def bondGroups :
    List CReqNumInfo → Alloc → List CDbSchedule → Except ScheduleError Alloc
  | [], alloc, _ => .ok alloc
  | group :: groups, alloc, vecDBUpdate =>
      let rows := mergeAllocDBResult group.vecSchResult vecDBUpdate
      let strDVSUuid := ((rows.find? fun row =>
        row.switchSriovFreeNum ≥ group.nSourceNum).map CDbSchedule.switchUuid).getD ""
      if strDVSUuid = "" then .error .noEdvsBondRes
      else
        let s := serveOut group.setVnicIter
          ⟨alloc, vecDBUpdate, rows.filter fun row => strDVSUuid = row.switchUuid⟩
        bondGroups groups s.alloc s.vecDBUpdate

def getEDVSBondRes (vecMTUNum : List CReqNumInfo) (alloc : Alloc)
    (vecDbBond : List CDbSchedule) : Except ScheduleError Alloc :=
  bondGroups vecMTUNum alloc vecDbBond

end Allocation

section Schedule

variable (inv : Inventory) (strVNAUuid : String) (info : CScheduleInfo)

/-- The vNICs of a group whose logic network is deployed already: there must be room for all. -/
def deployVnics (group : CReqNumInfo) (deployed : CDbDeplySummary) :
    List ℕ → Alloc → Except ScheduleError Alloc
  | [], alloc => .ok alloc
  | nic :: rest, alloc =>
      if alloc.vSwitchUuid nic ≠ "" then deployVnics group deployed rest alloc
      else if group.vecSchResult.any fun row => row.switchUuid = deployed.switchUuid ∧
          row.switchFreeNum ≥ group.nSourceNum then
        deployVnics group deployed rest
          (if info.isSriov then alloc.recordSriov deployed.portUuid nic else alloc)
      else .error .loopDeployedConflict

def loopGroup (group : CReqNumInfo) (alloc : Alloc) :
    Except ScheduleError (CReqNumInfo × Alloc) :=
  match inv.queryDeployByProjectLn group.strLogicNetwork with
  | none => .error .getLoopDeployedFailed
  | some [] => .ok (group, alloc)
  | some (_ :: _ :: _) => .error .loopDeployedInfoInvalid
  | some [deployed] =>
      if strVNAUuid ≠ deployed.vnaUuid then .error .loopDeployedConflict
      else (deployVnics info group deployed group.setVnicIter alloc).map fun alloc =>
        ({ group with strDeployedDvs := deployed.switchUuid }, alloc)

def getLoopDVSRes :
    List CReqNumInfo → Alloc → Except ScheduleError (List CReqNumInfo × Alloc)
  | [], alloc => .ok ([], alloc)
  | group :: groups, alloc =>
      (loopGroup inv strVNAUuid info group alloc).bind fun first =>
        (getLoopDVSRes groups first.2).map fun rest => (first.1 :: rest.1, rest.2)

def allocDVSRes (vecMTUNum : List CReqNumInfo) (nType : QueryDbSchType) (alloc : Alloc)
    (vecDbBond : List CDbSchedule) : Except ScheduleError (Alloc × List CDbSchedule) :=
  (if info.isLoop then getLoopDVSRes inv strVNAUuid info vecMTUNum alloc
    else .ok (vecMTUNum, alloc)).bind fun looped =>
    if !info.isSriov then
      match nType with
      | .normal | .vxlan =>
          (getSDVSRes info.isLoop looped.1 looped.2).map fun alloc => (alloc, vecDbBond)
      | .bond => .error .allotSdvsresFail
    else
      match nType with
      | .normal => getEDVSRes info.isLoop looped.1 looped.2 vecDbBond
      | .bond => (getEDVSBondRes looped.1 looped.2 vecDbBond).map fun alloc => (alloc, vecDbBond)
      | .vxlan => .ok (looped.2, vecDbBond)

/-- The rows of a group: the VNA is given by the caller, and a group that is deployed already
keeps the rows of its switch only. -/
def rowsFor (nQueryType : QueryDbSchType) (group : CReqNumInfo) :
    Except ScheduleError (List CDbSchedule) :=
  match inv.schedule info.isSriov info.isLoop
    ⟨nQueryType = .bond, nQueryType = .vxlan, group.nSourceNum, group.nMTU⟩ with
  | none => .error .callScheduleDbFail
  | some found =>
      let rows := group.vecSchResult ++ found
      let rows := if group.strDeployedDvs ≠ "" then
        rows.filter fun row => row.switchUuid = group.strDeployedDvs else rows
      if rows = [] then .error .failedNoResource else .ok rows

def queryDbScheduleInfo (nQueryType : QueryDbSchType) :
    List CReqNumInfo → Except ScheduleError (List CReqNumInfo)
  | [] => .ok []
  | group :: groups =>
      (rowsFor inv info nQueryType group).bind fun rows =>
        (queryDbScheduleInfo nQueryType groups).map fun rest =>
          { group with vecSchResult := rows } :: rest

/-- The requests of one kind, which are passed over where there are none. -/
def allocKind (nType : QueryDbSchType) (state : Alloc × List CDbSchedule) :
    Except ScheduleError (Alloc × List CDbSchedule) :=
  if info.groups nType = [] then .ok state
  else (queryDbScheduleInfo inv info nType (info.groups nType)).bind fun vecMTUNum =>
    allocDVSRes inv strVNAUuid info vecMTUNum nType state.1 state.2

def getDVSAllocResult (alloc : Alloc) : Except ScheduleError Alloc :=
  (allocKind inv strVNAUuid info .vxlan (alloc, [])).bind fun state =>
    (allocKind inv strVNAUuid info .normal state).bind fun state =>
      (allocKind inv strVNAUuid info .bond state).map Prod.fst

end Schedule

end Tecs.VnmSchedule
