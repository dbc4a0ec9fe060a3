import Tecs.Vnm.VlanRangeTable

set_option autoImplicit false

/-! The VLAN ids of private networks: the table of the ids in use and the table of their owners. -/

namespace Tecs

/-- What a procedure returns, or that its statement was not executed. -/
inductive VNetDbRet
  | success | hasSameItem | itemConflict | itemNoExist | resourceUsing | paramInvalid
  | pgMustCfgNetplane | mustCfgValidRange | executeFailed
deriving Repr, DecidableEq

/-- A VM port group. A private one in access mode has a row with its isolation number. -/
structure CDbPortGroup where
  pgType : Int
  switchportMode : Int
  isolateType : Int
  accessIsolateNo : Int
  isSdn : Int
  netplaneUuid : Option String
deriving Repr, DecidableEq

structure CDbNetplaneVlanPool where
  id : ℕ
  netplaneUuid : String
  vlanNum : ℕ
deriving Repr, DecidableEq

structure CDbVlanMap where
  projectId : Int64
  pgUuid : String
  vlanId : ℕ
  isolateNo : Int
deriving Repr, DecidableEq

/-- A row of the view that joins the map with the pool. -/
structure CDbVlanMapNetplane where
  netplaneUuid : String
  pgUuid : String
  projectId : Int64
  vlanNum : ℕ
  isolateNo : Int
deriving Repr, DecidableEq

namespace VlanPool

/-- The tables that the calls only read. -/
structure Network where
  netplane : List String
  vlanRange : String → List TVlanRangeItem
  portGroup : String → Option CDbPortGroup
  ranges_accepted : ∀ uuid, ∀ row ∈ vlanRange uuid, VlanPoolMgr.checkAddVlanRange row = true

/-- The tables that the calls write, with the number of the next row of the pool. -/
structure Tables where
  serialVlanPool : ℕ
  vlanPool : List CDbNetplaneVlanPool
  vlanMap : List CDbVlanMap
deriving Repr, DecidableEq

def Tables.empty : Tables := ⟨1, [], []⟩

def EN_PORTGROUP_TYPE_VM_PRIVATE : Int := 21
def EN_SWITCHPORT_MODE_ACCESS : Int := 1
def EN_ISOLATE_TYPE_VLAN : Int := 0
def VNET_MIN_MAP_VLAN_ID : ℕ := 2
def VNET_MAX_MAP_VLAN_ID : ℕ := 4094

/-- The number lies in a row of the ranges. -/
def Ranged (vecVlanRange : List TVlanRangeItem) (vlanNum : ℕ) : Prop :=
  ∃ row ∈ vecVlanRange, row.dwVlanIDStart.toNat ≤ vlanNum ∧ vlanNum ≤ row.dwVlanIDEnd.toNat

instance (vecVlanRange : List TVlanRangeItem) (vlanNum : ℕ) :
    Decidable (Ranged vecVlanRange vlanNum) :=
  inferInstanceAs (Decidable (∃ row ∈ vecVlanRange, _))

section Procedures

variable (net : Network) (db : Tables)

def checkAddVlanPool (netplaneUuid : String) (vlanNum : ℕ) : VNetDbRet :=
  if netplaneUuid ∉ net.netplane then .itemNoExist
  else if vlanNum < 2 then .paramInvalid
  else if vlanNum > 4094 then .paramInvalid
  else if ¬ Ranged (net.vlanRange netplaneUuid) vlanNum then .mustCfgValidRange
  else if ∃ row ∈ db.vlanPool, row.netplaneUuid = netplaneUuid ∧
    row.vlanNum = vlanNum then .itemConflict
  else .success

def Tables.addPool (netplaneUuid : String) (vlanNum : ℕ) : Tables :=
  { db with
    serialVlanPool := db.serialVlanPool + 1
    vlanPool := db.vlanPool ++ [⟨db.serialVlanPool, netplaneUuid, vlanNum⟩] }

def addVlanPool (netplaneUuid : String) (vlanNum : ℕ) : VNetDbRet × Tables :=
  match checkAddVlanPool net db netplaneUuid vlanNum with
  | .success => (.success, db.addPool netplaneUuid vlanNum)
  | ret => (ret, db)

def checkDelVlanPool (netplaneUuid : String) (vlanNum : ℕ) : VNetDbRet :=
  if netplaneUuid ∉ net.netplane then .itemNoExist
  else if vlanNum < 2 then .paramInvalid
  else if vlanNum > 4094 then .paramInvalid
  else
    match db.vlanPool.find? fun row => row.netplaneUuid = netplaneUuid ∧ row.vlanNum = vlanNum with
    | none => .itemNoExist
    | some row => if ∃ m ∈ db.vlanMap, m.vlanId = row.id then .resourceUsing else .success

def Tables.delPool (netplaneUuid : String) (vlanNum : ℕ) : Tables :=
  { db with
    vlanPool := db.vlanPool.filter fun row =>
      ¬ (row.netplaneUuid = netplaneUuid ∧ row.vlanNum = vlanNum) }

def delVlanPool (netplaneUuid : String) (vlanNum : ℕ) : VNetDbRet × Tables :=
  match checkDelVlanPool net db netplaneUuid vlanNum with
  | .success => (.success, db.delPool netplaneUuid vlanNum)
  | ret => (ret, db)

/-- The tests that the procedures of the map begin with, and the row of the pool they end at. -/
def checkVlanMap (pgUuid : String) (vlanNum : ℕ) (isolateNo : Int) :
    Except VNetDbRet CDbNetplaneVlanPool :=
  match net.portGroup pgUuid with
  | none => .error .itemNoExist
  | some pg =>
      if pg.pgType ≠ EN_PORTGROUP_TYPE_VM_PRIVATE then .error .itemNoExist
      else if pg.switchportMode ≠ EN_SWITCHPORT_MODE_ACCESS then .error .paramInvalid
      else if pg.accessIsolateNo ≠ isolateNo then .error .paramInvalid
      else if vlanNum < 2 then .error .paramInvalid
      else if vlanNum > 4094 then .error .paramInvalid
      else
        match pg.netplaneUuid with
        | none => .error .pgMustCfgNetplane
        | some netplaneUuid =>
            match db.vlanPool.find? fun row =>
              row.netplaneUuid = netplaneUuid ∧ row.vlanNum = vlanNum with
            | none => .error .itemNoExist
            | some row => .ok row

def checkAddVlanMap (projectId : Int64) (pgUuid : String) (vlanNum : ℕ)
    (isolateNo : Int) : VNetDbRet :=
  match checkVlanMap net db pgUuid vlanNum isolateNo with
  | .error ret => ret
  | .ok row =>
      if ∃ m ∈ db.vlanMap, m.projectId = projectId ∧ m.pgUuid = pgUuid ∧
        m.isolateNo = isolateNo then
        if ∃ m ∈ db.vlanMap, m.projectId = projectId ∧ m.pgUuid = pgUuid ∧
          m.isolateNo = isolateNo ∧ m.vlanId = row.id then .hasSameItem
        else .itemConflict
      else .success

def Tables.addMap (m : CDbVlanMap) : Tables := { db with vlanMap := db.vlanMap ++ [m] }

/-- A row that is there already is added with success. -/
def addVlanMap (projectId : Int64) (pgUuid : String) (vlanNum : ℕ) (isolateNo : Int) :
    VNetDbRet × Tables :=
  match checkAddVlanMap net db projectId pgUuid vlanNum isolateNo with
  | .hasSameItem => (.success, db)
  | .success =>
      match checkVlanMap net db pgUuid vlanNum isolateNo with
      | .error ret => (ret, db)
      | .ok row => (.success, db.addMap ⟨projectId, pgUuid, row.id, isolateNo⟩)
  | ret => (ret, db)

/-- `inUse` tells whether vnics of the project use the port group. -/
def checkDelVlanMap (inUse : Bool) (projectId : Int64) (pgUuid : String) (vlanNum : ℕ)
    (isolateNo : Int) :
    VNetDbRet :=
  match checkVlanMap net db pgUuid vlanNum isolateNo with
  | .error ret => ret
  | .ok row =>
      if ¬ ∃ m ∈ db.vlanMap, m.projectId = projectId ∧ m.pgUuid = pgUuid ∧ m.vlanId = row.id then
        .itemNoExist
      else if inUse then .resourceUsing
      else .success

def Tables.delMap (projectId : Int64) (pgUuid : String) (vlanId : ℕ) : Tables :=
  { db with
    vlanMap := db.vlanMap.filter fun m =>
      ¬ (m.projectId = projectId ∧ m.pgUuid = pgUuid ∧ m.vlanId = vlanId) }

def delVlanMap (inUse : Bool) (projectId : Int64) (pgUuid : String) (vlanNum : ℕ)
    (isolateNo : Int) :
    VNetDbRet × Tables :=
  match checkDelVlanMap net db inUse projectId pgUuid vlanNum isolateNo with
  | .success =>
      match checkVlanMap net db pgUuid vlanNum isolateNo with
      | .error ret => (ret, db)
      | .ok row => (.success, db.delMap projectId pgUuid row.id)
  | ret => (ret, db)

/-- The view: a row for every row of the map whose port group has a netplane. -/
def vlanMapNetplane : List CDbVlanMapNetplane :=
  db.vlanMap.flatMap fun m =>
    if ((net.portGroup m.pgUuid).bind (·.netplaneUuid)).isSome then
      (db.vlanPool.filter (·.id = m.vlanId)).map fun row =>
        ⟨row.netplaneUuid, m.pgUuid, m.projectId, row.vlanNum, m.isolateNo⟩
    else []

def queryByNpProjectIdIsolateNo (netplaneUuid : String) (projectId : Int64) (isolateNo : Int) :
    List CDbVlanMapNetplane :=
  (vlanMapNetplane net db).filter fun info =>
    info.netplaneUuid = netplaneUuid ∧ info.projectId = projectId ∧ info.isolateNo = isolateNo

def queryByProjectIdPGIsolateNo (projectId : Int64) (pgUuid : String)
    (isolateNo : Int) : Option ℕ :=
  let vInfo := (vlanMapNetplane net db).filter fun info =>
    info.projectId = projectId ∧ info.pgUuid = pgUuid
  (vInfo.find? (·.isolateNo = isolateNo)).map (·.vlanNum)

end Procedures

/-- The statements of the calls. -/
inductive Statement
  | needVlanMap | portGroupSdn | portGroupNetplane | queryRange | queryPool | queryMap
  | checkAddPool | addPool | checkAddMap | addMap | checkDelMap | delMap | checkDelPool | delPool
deriving Repr, DecidableEq

/-- What the statements of one call meet: those that fail, and whether vnics use the port group
when the two deletions from the map look for them. -/
structure Answers where
  fails : Statement → Bool
  inUseAtCheck : Bool
  inUseAtDel : Bool

def Answers.check (answers : Answers) (s : Statement) (ret : VNetDbRet) : VNetDbRet :=
  if answers.fails s then .executeFailed else ret

def Answers.execute (answers : Answers) (s : Statement) (db : Tables) (done : VNetDbRet × Tables) :
    VNetDbRet × Tables :=
  if answers.fails s then (.executeFailed, db) else done

inductive VlanStatus
  | unusable | usable | used
deriving Repr, DecidableEq

/-- The statuses of all numbers: those of the ranges are usable, those of the pool used. -/
def init (vecVlanRange : List TVlanRangeItem) (vecVlanPool : List CDbNetplaneVlanPool) :
    ℕ → VlanStatus :=
  let ranged := vecVlanRange.foldl (fun vecVlanStatus row =>
    (List.range' row.dwVlanIDStart.toNat
      (row.dwVlanIDEnd.toNat + 1 - row.dwVlanIDStart.toNat)).foldl
      (fun vecVlanStatus i => Function.update vecVlanStatus i .usable) vecVlanStatus)
    fun _ => .unusable
  vecVlanPool.foldl (fun vecVlanStatus row => Function.update vecVlanStatus row.vlanNum .used)
    ranged

/-- The first usable number. -/
def firstUsable (vecVlanStatus : ℕ → VlanStatus) : Option ℕ :=
  (List.range' VNET_MIN_MAP_VLAN_ID (VNET_MAX_MAP_VLAN_ID + 1 - VNET_MIN_MAP_VLAN_ID)).find?
    fun i => vecVlanStatus i = .usable

section Calls

variable (net : Network) (answers : Answers)

/-- The check and the addition of a row of the map, the same for an old id and for a new one. -/
def mapVlan (nProjID : Int64) (strPGID : String) (dwAllocVlanID : ℕ) (nIsolationNo : Int)
    (db : Tables) : Option ℕ × Tables :=
  if answers.check .checkAddMap
    (checkAddVlanMap net db nProjID strPGID dwAllocVlanID nIsolationNo) ≠
      .success then (none, db)
  else
    match answers.execute .addMap db
      (addVlanMap net db nProjID strPGID dwAllocVlanID nIsolationNo) with
    | (.success, db) => (some dwAllocVlanID, db)
    | (_, db) => (none, db)

/-- The row of the pool is written before the row of the map. -/
def allocVlanID (vecVlanStatus : ℕ → VlanStatus) (strNetplaneID : String) (nProjID : Int64)
    (strPGID : String) (nIsolationNo : Int) (db : Tables) : Option ℕ × Tables :=
  if strNetplaneID = "" then (none, db)
  else if strPGID = "" then (none, db)
  else if answers.fails .queryMap then (none, db)
  else
    match queryByNpProjectIdIsolateNo net db strNetplaneID nProjID nIsolationNo with
    | info :: rest =>
        if (info :: rest).any fun info => info.projectId = nProjID ∧ info.pgUuid = strPGID ∧
            info.isolateNo = nIsolationNo then (some info.vlanNum, db)
        else mapVlan net answers nProjID strPGID info.vlanNum nIsolationNo db
    | [] =>
        match firstUsable vecVlanStatus with
        | none => (none, db)
        | some dwAllocVlanID =>
            if answers.check .checkAddPool (checkAddVlanPool net db strNetplaneID dwAllocVlanID) ≠
                .success then (none, db)
            else
              match answers.execute .addPool db
                (addVlanPool net db strNetplaneID dwAllocVlanID) with
              | (.success, db) => mapVlan net answers nProjID strPGID dwAllocVlanID nIsolationNo db
              | (_, db) => (none, db)

/-- The row of the map is deleted before the row of the pool; an id that is still in use is freed
with success. -/
def freeVlanID (strNetplaneID : String) (nProjID : Int64) (strPGID : String) (nIsolationNo : Int)
    (db : Tables) : Bool × Tables :=
  if strNetplaneID = "" then (false, db)
  else if strPGID = "" then (false, db)
  else if answers.fails .queryMap then (false, db)
  else
    match queryByProjectIdPGIsolateNo net db nProjID strPGID nIsolationNo with
    | none => (true, db)
    | some dwFreeVlanID =>
        match answers.check .checkDelMap
          (checkDelVlanMap net db answers.inUseAtCheck nProjID strPGID dwFreeVlanID
            nIsolationNo) with
        | .resourceUsing | .itemNoExist => (true, db)
        | .success =>
            match answers.execute .delMap db
              (delVlanMap net db answers.inUseAtDel nProjID strPGID dwFreeVlanID nIsolationNo) with
            | (.success, db) =>
                match answers.check .checkDelPool
                  (checkDelVlanPool net db strNetplaneID dwFreeVlanID) with
                | .resourceUsing | .itemNoExist => (true, db)
                | .success =>
                    match answers.execute .delPool db
                      (delVlanPool net db strNetplaneID dwFreeVlanID) with
                    | (.success, db) => (true, db)
                    | (_, db) => (false, db)
                | _ => (false, db)
            | (_, db) => (false, db)
        | _ => (false, db)

def isNeedVlanMap (strPGUuid : String) : Option Int :=
  if answers.fails .needVlanMap then none
  else
    match net.portGroup strPGUuid with
    | none => none
    | some cDbPG =>
        if cDbPG.switchportMode = EN_SWITCHPORT_MODE_ACCESS ∧
            cDbPG.pgType = EN_PORTGROUP_TYPE_VM_PRIVATE ∧
              cDbPG.isolateType = EN_ISOLATE_TYPE_VLAN then
          some cDbPG.accessIsolateNo
        else none

/-- A query that fails answers no. -/
def isPortGroupSdn (strPGUuid : String) : Bool :=
  if answers.fails .portGroupSdn then false
  else (net.portGroup strPGUuid).any (·.isSdn = 1)

def getPGNetplane (strPGUuid : String) : Option String :=
  if answers.fails .portGroupNetplane then none
  else (net.portGroup strPGUuid).map fun cDbPG => cDbPG.netplaneUuid.getD ""

def getVlanRange (strNetplaneID : String) : Option (List TVlanRangeItem) :=
  if strNetplaneID = "" then none
  else if answers.fails .queryRange then none
  else if (net.vlanRange strNetplaneID).isEmpty then none
  else some (net.vlanRange strNetplaneID)

/-- What becomes of one vnic. -/
inductive VnicRet
  | skipped
  | failed
  | mapped (dwVlanID : ℕ)
  | freed
deriving Repr, DecidableEq

/-- One vnic of `AllocVlanForVnic`. -/
def allocVlan (nProjID : Int64) (strPGID : String) (db : Tables) : VnicRet × Tables :=
  match isNeedVlanMap net answers strPGID with
  | none => (.skipped, db)
  | some nIsolationNo =>
      if isPortGroupSdn net answers strPGID then (.skipped, db)
      else
        match getPGNetplane net answers strPGID with
        | none => (.failed, db)
        | some strNetplaneUUID =>
            match getVlanRange net answers strNetplaneUUID with
            | none => (.failed, db)
            | some vecVlanRange =>
                if answers.fails .queryPool then (.failed, db)
                else
                  let vecVlanStatus :=
                    init vecVlanRange (db.vlanPool.filter (·.netplaneUuid = strNetplaneUUID))
                  match allocVlanID net answers vecVlanStatus strNetplaneUUID nProjID strPGID
                    nIsolationNo db with
                  | (some dwVlanID, db) => (.mapped dwVlanID, db)
                  | (none, db) => (.failed, db)

/-- One vnic of `FreeVlanForVnic`. -/
def freeVlan (nProjID : Int64) (strPGID : String) (db : Tables) : VnicRet × Tables :=
  match isNeedVlanMap net answers strPGID with
  | none => (.skipped, db)
  | some nIsolationNo =>
      match getPGNetplane net answers strPGID with
      | none => (.failed, db)
      | some strNetplaneUUID =>
          -- a netplane without ranges fails as well: what would be passed over is ITEM_NO_EXIST,
          -- which the query for the ranges never comes to
          match getVlanRange net answers strNetplaneUUID with
          | none => (.failed, db)
          | some _ =>
              match freeVlanID net answers strNetplaneUUID nProjID strPGID nIsolationNo db with
              | (true, db) => (.freed, db)
              | (false, db) => (.failed, db)

end Calls

section Vnics

variable (net : Network) (nProjID : Int64)

/-- The vnics of a virtual machine, each with what its statements meet, up to the first failure. -/
def allocVlanForVnic : List (String × Answers) → Tables → Bool × Tables
  | [], db => (true, db)
  | (strPGID, answers) :: vecVNetVnic, db =>
      match allocVlan net answers nProjID strPGID db with
      | (.failed, db) => (false, db)
      | (_, db) => allocVlanForVnic vecVNetVnic db

def freeVlanForVnic : List (String × Answers) → Tables → Bool × Tables
  | [], db => (true, db)
  | (strPGID, answers) :: vecVNetVnic, db =>
      match freeVlan net answers nProjID strPGID db with
      | (.failed, db) => (false, db)
      | (_, db) => freeVlanForVnic vecVNetVnic db

end Vnics

end VlanPool

end Tecs
