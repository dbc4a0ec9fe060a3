import Tecs.Vnm.Ipv4Addr
import Tecs.Vnm.RangeCollection
import Tecs.Vnm.TableWrites

set_option autoImplicit false

/-! Additions of IPv4 ranges to netplanes and to logic networks. -/

namespace Tecs

/-- A row of a range table. -/
structure CDbIpRange where
  beginNum : UInt32
  endNum : UInt32
  maskNum : UInt32
deriving Repr, DecidableEq

namespace CDbIpRange

def item (row : CDbIpRange) : TIPV4AddrRangeItem :=
  ⟨⟨row.beginNum, row.maskNum⟩, ⟨row.endNum, row.maskNum⟩⟩

def ofItem (tItem : TIPV4AddrRangeItem) : CDbIpRange :=
  ⟨tItem.tIPStart.uIP, tItem.tIPEnd.uIP, tItem.tIPEnd.uMask⟩

end CDbIpRange

namespace CIPv4AddrRange

open RangeArithmetic

/-- Merged ranges get the masks of the request. -/
def kind (tStartMask tEndMask : UInt32) : RangeKind TIPV4AddrRangeItem where
  isValidRange := isValidIPv4Range
  toRange r := ⟨r.tIPStart.uIP, r.tIPEnd.uIP⟩
  ofRange r := ⟨⟨r.dwStart, tStartMask⟩, ⟨r.dwEnd, tEndMask⟩⟩
  proper _ valid := start_le valid
  toRange_ofRange _ := rfl

def addRange (std : StdSort) (stored : List TIPV4AddrRangeItem) (tItem : TIPV4AddrRangeItem) :
    Int × List TIPV4AddrRangeItem :=
  (kind tItem.tIPStart.uMask tItem.tIPEnd.uMask).addRange std stored tItem

end CIPv4AddrRange

/-- The request of a netplane or of a logic network. An address is nothing where `Set` refuses the
texts for it and its mask. -/
structure CIPv4RangeMsg where
  strUUID : String
  cIPStart : Option TIPv4Addr
  cIPEnd : Option TIPv4Addr

namespace CIPv4PoolMgr

open CIPv4AddrRange CIPv4Addr RangeArithmetic

inductive RangeRet
  | operSuccess | cfgParamError | invalid | notSameSubnet | calcError | dbError
deriving Repr, DecidableEq

/-- The rows with the mask and in the subnet of the new range; nothing, if a row with another mask
shares with it the network of the shorter mask. The masks are compared as words in network order. -/
def relatedRanges (isBigendianHost : Bool) (tNewItem : TIPV4AddrRangeItem) :
    List CDbIpRange → Option (List CDbIpRange)
  | [] => some []
  | row :: outVInfo =>
      let tItem := row.item
      if tItem.tIPStart.uMask ≠ tNewItem.tIPEnd.uMask then
        let dwMinMask :=
          if h2NL isBigendianHost tItem.tIPStart.uMask <
              h2NL isBigendianHost tNewItem.tIPStart.uMask then tItem.tIPStart.uMask
          else tNewItem.tIPStart.uMask
        if tNewItem.tIPStart.uIP &&& dwMinMask = tItem.tIPStart.uIP &&& dwMinMask then none
        else relatedRanges isBigendianHost tNewItem outVInfo
      else if tNewItem.tIPStart.uIP &&& tNewItem.tIPStart.uMask ≠
          tItem.tIPStart.uIP &&& tItem.tIPStart.uMask then
        relatedRanges isBigendianHost tNewItem outVInfo
      else (relatedRanges isBigendianHost tNewItem outVInfo).map (row :: ·)

def written (result : Bool × Session CDbIpRange) : RangeRet × List CDbIpRange :=
  (if result.1 then .operSuccess else .dbError, result.2.rows)

/-- What both kinds of network do with a request: `outVInfo` are the rows of the network as they
are read, `accepts` is the test of the procedure that adds a row. Statements that the procedures
accept take effect. -/
def addIPv4Range (isBigendianHost : Bool) (std : StdSort) (accepts : CDbIpRange → Bool)
    (cMsg : CIPv4RangeMsg) (outVInfo rows : List CDbIpRange) : RangeRet × List CDbIpRange :=
  if cMsg.strUUID = "" then (.cfgParamError, rows)
  else
    match cMsg.cIPStart, cMsg.cIPEnd with
    | some tIPStart, some tIPEnd =>
        let tNewItem : TIPV4AddrRangeItem := ⟨tIPStart, tIPEnd⟩
        if !isValidIPv4Range tNewItem then (.invalid, rows)
        else if !isSameSubnet tNewItem then (.notSameSubnet, rows)
        else
          match relatedRanges isBigendianHost tNewItem outVInfo with
          | none => (.invalid, rows)
          | some vecRelatedIPRange =>
              if vecRelatedIPRange.isEmpty then
                written (Session.add accepts ⟨rows, []⟩ (.ofItem tNewItem))
              else
                let (ret, vecCalcRange) :=
                  addRange std (vecRelatedIPRange.map CDbIpRange.item) tNewItem
                if ret ≠ 0 then (.calcError, rows)
                else
                  -- both ends of a calculated range have one mask, that of the valid request
                  written (Session.save accepts (vecCalcRange.map .ofItem) vecRelatedIPRange
                    ⟨rows, []⟩)
    | _, _ => (.cfgParamError, rows)

/-- What a request hands to the sort, if it comes to be merged with rows of its subnet. -/
def sortInput (isBigendianHost : Bool) (cMsg : CIPv4RangeMsg) (outVInfo : List CDbIpRange) :
    List TRange :=
  match cMsg.cIPStart, cMsg.cIPEnd with
  | some tIPStart, some tIPEnd =>
      let tNewItem : TIPV4AddrRangeItem := ⟨tIPStart, tIPEnd⟩
      if cMsg.strUUID ≠ "" ∧ isValidIPv4Range tNewItem = true ∧ isSameSubnet tNewItem = true then
        match relatedRanges isBigendianHost tNewItem outVInfo with
        | none => []
        | some vecRelatedIPRange =>
            (kind tIPStart.uMask tIPEnd.uMask).gathered (vecRelatedIPRange.map CDbIpRange.item)
              tNewItem
      else []
  | _, _ => []

/-- The rows of each netplane and of each logic network. -/
structure Tables where
  ipRange : String → List CDbIpRange
  logicNetworkIpRange : String → List CDbIpRange

/-- The test of the procedure; the one for overlapping rows is commented out. -/
def checkAddNetplaneIprange (row : CDbIpRange) : Bool := row.beginNum ≤ row.endNum

/-- The logic network needs a netplane, and no other logic network of it may have a range with the
same mask that overlaps. The view pairs logic networks with their netplanes. -/
def checkAddLogicnetworkIprange (tables : Tables) (view : List (String × String)) (uuid : String)
    (row : CDbIpRange) : Bool :=
  row.beginNum ≤ row.endNum &&
    match view.find? (·.1 = uuid) with
    | none => false
    | some (_, netplaneuuid) =>
        !view.any fun (logicnetworkuuid, netplane) =>
          netplane = netplaneuuid && logicnetworkuuid ≠ uuid &&
            (tables.logicNetworkIpRange logicnetworkuuid).any fun other =>
              other.beginNum ≤ row.endNum && other.endNum ≥ row.beginNum &&
                other.maskNum = row.maskNum

/-- The order in which the rows of one query come. -/
structure ReadOrder where
  order : List CDbIpRange → List CDbIpRange
  perm : ∀ rows, (order rows).Perm rows

inductive Call
  | addNetplane (read : ReadOrder) (cMsg : CIPv4RangeMsg)
  | addLogicNetwork (read : ReadOrder) (view : List (String × String)) (cMsg : CIPv4RangeMsg)

def addNetplaneIPv4Range (isBigendianHost : Bool) (std : StdSort) (read : ReadOrder)
    (cMsg : CIPv4RangeMsg) (tables : Tables) : RangeRet × Tables :=
  let rows := tables.ipRange cMsg.strUUID
  let (ret, rows) :=
    addIPv4Range isBigendianHost std checkAddNetplaneIprange cMsg (read.order rows) rows
  (ret, { tables with ipRange := Function.update tables.ipRange cMsg.strUUID rows })

def addLogicNetworkIPv4Range (isBigendianHost : Bool) (std : StdSort) (read : ReadOrder)
    (view : List (String × String)) (cMsg : CIPv4RangeMsg) (tables : Tables) :
    RangeRet × Tables :=
  let rows := tables.logicNetworkIpRange cMsg.strUUID
  let (ret, rows) :=
    addIPv4Range isBigendianHost std
      (checkAddLogicnetworkIprange tables view cMsg.strUUID) cMsg (read.order rows) rows
  (ret, { tables with
    logicNetworkIpRange := Function.update tables.logicNetworkIpRange cMsg.strUUID rows })

def Call.step (isBigendianHost : Bool) (std : StdSort) (tables : Tables) : Call → RangeRet × Tables
  | .addNetplane read cMsg => addNetplaneIPv4Range isBigendianHost std read cMsg tables
  | .addLogicNetwork read view cMsg =>
      addLogicNetworkIPv4Range isBigendianHost std read view cMsg tables

/-- The rows of the request's subnet can be sorted with it. -/
def Call.Sorts (isBigendianHost : Bool) (tables : Tables) : Call → Prop
  | .addNetplane read cMsg =>
      SortsSafely (sortInput isBigendianHost cMsg (read.order (tables.ipRange cMsg.strUUID)))
  | .addLogicNetwork read _ cMsg =>
      SortsSafely (sortInput isBigendianHost cMsg
        (read.order (tables.logicNetworkIpRange cMsg.strUUID)))

instance (isBigendianHost : Bool) (tables : Tables) (call : Call) :
    Decidable (call.Sorts isBigendianHost tables) :=
  match call with
  | .addNetplane _ _ | .addLogicNetwork _ _ _ => inferInstanceAs (Decidable (SortsSafely _))

/-- The tables left by one call after the other, from empty ones. -/
def run (isBigendianHost : Bool) (std : StdSort) (calls : List Call) : Tables :=
  calls.foldl (fun tables call => (call.step isBigendianHost std tables).2)
    ⟨fun _ => [], fun _ => []⟩

end CIPv4PoolMgr

end Tecs
