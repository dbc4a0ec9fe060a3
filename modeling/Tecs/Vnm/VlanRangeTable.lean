import Tecs.Vnm.TableWrites
import Tecs.Vnm.VlanRange

set_option autoImplicit false

/-! Additions and deletions of VLAN ranges, one statement to the database after the other. -/

namespace Tecs

structure CVlanRangeMsg where
  nVlanStart : Int
  nVlanEnd : Int
deriving Repr, DecidableEq

namespace CVlanRangeMsg

def VNETLIB_MIN_VLAN_ID : Int := 2
def VNETLIB_MAX_VLAN_ID : Int := 4094

def isValidRange (cMsg : CVlanRangeMsg) : Bool :=
  !(cMsg.nVlanStart > cMsg.nVlanEnd || cMsg.nVlanStart < VNETLIB_MIN_VLAN_ID ||
    cMsg.nVlanEnd > VNETLIB_MAX_VLAN_ID)

def item (cMsg : CVlanRangeMsg) : TVlanRangeItem :=
  ⟨UInt32.ofInt cMsg.nVlanStart, UInt32.ofInt cMsg.nVlanEnd⟩

end CVlanRangeMsg

namespace VlanPoolMgr

open RangeArithmetic

/-- The test of the procedure; the one for overlapping rows is commented out. -/
def checkAddVlanRange (row : TVlanRangeItem) : Bool :=
  row.dwVlanIDStart ≤ row.dwVlanIDEnd && row.dwVlanIDStart ≥ 2 && row.dwVlanIDEnd ≤ 4094

/-- What the statements of one call meet. A statement that reads gives `none` when it fails. -/
structure Answers where
  shareNetAccessVlan : Option (List Int)
  shareNetTrunkVlan : Option (List (Int × Int))
  queryFails : Bool
  allocNum : Option Int
  isolateNo : Option (List Int)
  /-- The order in which the rows are read. -/
  order : List TVlanRangeItem → List TVlanRangeItem
  perm : ∀ rows, (order rows).Perm rows
  fates : List Bool

inductive RangeRet
  | operSuccess | cfgParamError | calcError | notExist | occupied | dbError
deriving Repr, DecidableEq

def isConflictWithShareNetAccessVlan (answers : Answers) (cMsg : CVlanRangeMsg) : Bool :=
  match answers.shareNetAccessVlan with
  | none => true
  | some outVInfo => outVInfo.any fun vlan => vlan ≥ cMsg.nVlanStart && vlan ≤ cMsg.nVlanEnd

def isConflictWithShareNetTrunkVlan (answers : Answers) (cMsg : CVlanRangeMsg) : Bool :=
  match answers.shareNetTrunkVlan with
  | none => true
  | some outVInfo => outVInfo.any fun vlans => cMsg.nVlanEnd ≥ vlans.1 && cMsg.nVlanStart ≤ vlans.2

def written (result : Bool × Session TVlanRangeItem) : RangeRet × List TVlanRangeItem :=
  (if result.1 then .operSuccess else .dbError, result.2.rows)

def answered (result : RangeRet × List TVlanRangeItem) : Option RangeRet × List TVlanRangeItem :=
  (some result.1, result.2)

def addVlanRange (std : StdSort) (answers : Answers) (cMsg : CVlanRangeMsg)
    (rows : List TVlanRangeItem) : RangeRet × List TVlanRangeItem :=
  if !cMsg.isValidRange then (.cfgParamError, rows)
  else if isConflictWithShareNetAccessVlan answers cMsg then (.cfgParamError, rows)
  else if isConflictWithShareNetTrunkVlan answers cMsg then (.cfgParamError, rows)
  else if answers.queryFails then (.dbError, rows)
  else
    let outVInfo := answers.order rows
    let cVlanRange := outVInfo.foldl (fun stored row => (VlanRange.addValidRange stored row).2) []
    if outVInfo.isEmpty then written (Session.add checkAddVlanRange ⟨rows, answers.fates⟩ cMsg.item)
    else
      let (ret, vecCalcRange) := VlanRange.addRange std cVlanRange cMsg.item
      if ret ≠ 0 then (.calcError, rows)
      else written (Session.save checkAddVlanRange vecCalcRange outVInfo ⟨rows, answers.fates⟩)

def afterNews : Bool × List TVlanRangeItem × Session TVlanRangeItem →
    Option RangeRet × List TVlanRangeItem
  -- the message of a failed `INSERT`
  | (false, _, s) => (none, s.rows)
  | (true, outVInfo, s) => answered (written (Session.delAll outVInfo s))

/-- There is no answer where a number stands for the text in a message, and the process dies. -/
def delVlanRange (answers : Answers) (cMsg : CVlanRangeMsg) (rows : List TVlanRangeItem) :
    Option RangeRet × List TVlanRangeItem :=
  if !cMsg.isValidRange then (some .cfgParamError, rows)
  else if answers.queryFails then (some .dbError, rows)
  else
    let outVInfo := answers.order rows
    if outVInfo.isEmpty then (some .notExist, rows)
    else
      match answers.allocNum with
      | none => (some .dbError, rows)
      | some nOccNum =>
          if nOccNum ≠ 0 then (some .occupied, rows)
          else
            let cVlanRange :=
              outVInfo.foldl (fun stored row => (VlanRange.addValidRange stored row).2) []
            let (ret, vecCalcRange) := VlanRange.delRange cVlanRange cMsg.item
            if ret ≠ 0 then (some .calcError, rows)
            else
              -- the last range of a netplane with private networks is not given up
              match if vecCalcRange.isEmpty then answers.isolateNo else some [] with
              | none => (some .calcError, rows)
              | some (_ :: _) => (some .occupied, rows)
              | some [] =>
                  afterNews (Session.addNews checkAddVlanRange vecCalcRange outVInfo
                    ⟨rows, answers.fates⟩)

end VlanPoolMgr

end Tecs
