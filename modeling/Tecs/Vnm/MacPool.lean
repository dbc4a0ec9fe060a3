import Tecs.Vnm.RangeAlloc

set_option autoImplicit false

namespace Tecs

/-- The two halves of a MAC address, 24 bits each when they come from an address. -/
structure TUInt32MAC where
  dwOUI : UInt32
  dwData : UInt32
deriving Repr, DecidableEq

namespace TUInt32MAC

def c_dwZTEOUI1 : UInt32 := 0x00d0d0
def c_dwZTEOUI2 : UInt32 := 0x0019c6

/-- The six bytes that are kept of the two halves. -/
def set (tMAC : TUInt32MAC) : TUInt32MAC := ⟨tMAC.dwOUI &&& 0x00FFFFFF, tMAC.dwData &&& 0x00FFFFFF⟩

def isValidOUI (tMAC : TUInt32MAC) : Bool :=
  tMAC.set.dwOUI = c_dwZTEOUI1 || tMAC.set.dwOUI = c_dwZTEOUI2

/-- The number under which an address is stored. -/
def macNum (tMAC : TUInt32MAC) : ℕ := tMAC.dwOUI.toNat * 2 ^ 32 + tMAC.dwData.toNat

end TUInt32MAC

structure TMACRangeItem where
  tStartMAC : TUInt32MAC
  tEndMAC : TUInt32MAC
deriving Repr, DecidableEq

namespace TMACRangeItem

def isValidMACRange (tMACRange : TMACRangeItem) : Bool :=
  tMACRange.tStartMAC.isValidOUI && tMACRange.tEndMAC.isValidOUI &&
    tMACRange.tStartMAC.dwOUI = tMACRange.tEndMAC.dwOUI &&
    !(tMACRange.tStartMAC.dwData &&& 0x00FFFFFF = 0 ||
      tMACRange.tStartMAC.dwData &&& 0x00FFFFFF = 0x00FFFFFF) &&
    !(tMACRange.tEndMAC.dwData &&& 0x00FFFFFF = 0 ||
      tMACRange.tEndMAC.dwData &&& 0x00FFFFFF = 0x00FFFFFF) &&
    tMACRange.tStartMAC.dwData ≤ tMACRange.tEndMAC.dwData

end TMACRangeItem

structure CDbNetplaneMacPool where
  uuid : String
  macNum : ℕ
deriving Repr, DecidableEq

/-- The ranges of one netplane, read from the database into a list for each of the two OUIs. -/
structure CMACPool where
  strNetplaneUUID : String
  pOUI1MACRange : List TMACRangeItem
  pOUI2MACRange : List TMACRangeItem

namespace CMACPool

variable (self : CMACPool) (pool : List CDbNetplaneMacPool)

/-- The range rows that the database holds for the netplane. -/
def ranges : List TMACRangeItem := self.pOUI1MACRange ++ self.pOUI2MACRange

/-- The number has to lie in a range of the netplane, and no netplane may hold it. -/
def checkAddMacPool (macNum : ℕ) : Bool :=
  self.ranges.any (fun r => r.tStartMAC.macNum ≤ macNum && macNum ≤ r.tEndMAC.macNum) &&
    !pool.any fun row => row.macNum = macNum

def saveMAC2DB (tMAC : TUInt32MAC) : Option (List CDbNetplaneMacPool) :=
  if self.checkAddMacPool pool tMAC.set.macNum then
    some (pool ++ [⟨self.strNetplaneUUID, tMAC.set.macNum⟩])
  else none

/-- Only the rows of the netplane itself are counted. -/
def queryAllocNum (nBegin nEnd : ℕ) : ℕ :=
  (pool.filter fun row =>
    row.uuid = self.strNetplaneUUID && nBegin ≤ row.macNum && row.macNum ≤ nEnd).length

def getMACCnt (tRange : TMACRangeItem) : Option ℕ :=
  if tRange.isValidMACRange then
    some (self.queryAllocNum pool tRange.tStartMAC.macNum tRange.tEndMAC.macNum)
  else none

def getAvailableRange (order : FreeSort TMACRangeItem) (vecMACRange : List TMACRangeItem) :
    List (TRangeUsedInfo TMACRangeItem) :=
  Tecs.getAvailableRange (self.getMACCnt pool)
    (fun item => item.tEndMAC.dwData - item.tStartMAC.dwData + 1) order vecMACRange

/-- The remainder never is the last address of the range. -/
def calcMACAddr (nKey : Int32) (dwMACEnd dwMACStart : UInt32) (uuid : UUIDValue) : UInt32 :=
  if dwMACEnd = dwMACStart then dwMACStart
  else
    let dwMACKey := (uuid.nFactorA * 102317 + uuid.nFactorB * 8317 + uuid.nFactorC * 3331 +
      uuid.nFactorD.toInt32 * 2179 + uuid.nFactorE.toInt32 * 9973 + nKey * 5711 + 382457).toUInt32
    dwMACKey % (dwMACEnd - dwMACStart) + dwMACStart

/-- A range of one address does not draw. -/
def drawn (dwMACEnd dwMACStart : UInt32) (n : ℕ) : ℕ := if dwMACEnd = dwMACStart then n else n + 1

def tryRange (dwOUI dwMACStart dwMACEnd : UInt32) (nKey : Int32) (draws : ℕ → UUIDValue) (n : ℕ) :
    Try (List CDbNetplaneMacPool) :=
  tryLoop (fun dwData => self.saveMAC2DB pool ⟨dwOUI, dwData⟩)
    (fun n => some (calcMACAddr nKey dwMACEnd dwMACStart (draws n))) (dwMACEnd - dwMACStart)
    dwMACStart 16 0 (drawn dwMACEnd dwMACStart n)
    (calcMACAddr nKey dwMACEnd dwMACStart (draws n))

def queryByNpRange (nMACBegin nMACEnd : ℕ) : List CDbNetplaneMacPool :=
  pool.filter fun row =>
    row.uuid = self.strNetplaneUUID && nMACBegin ≤ row.macNum && row.macNum ≤ nMACEnd

/-- The rows of the netplane itself are passed over, those of others are not seen. -/
def scanAllocMAC (dwOUI dwMACStart dwMACEnd : UInt32) : Option UInt32 :=
  let vecMACOut := self.queryByNpRange pool (TUInt32MAC.macNum ⟨dwOUI, dwMACStart⟩)
    (TUInt32MAC.macNum ⟨dwOUI, dwMACEnd⟩)
  scanRange (fun i => vecMACOut.any fun row => TUInt32MAC.macNum ⟨dwOUI, i⟩ = row.macNum)
    dwMACStart dwMACEnd

/-- One range after the other, up to the first that gives an address. -/
def allocLoop (dwOUI : UInt32) (nKey : Int32) (draws : ℕ → UUIDValue) :
    List (TRangeUsedInfo TMACRangeItem) → ℕ →
      Alloc TUInt32MAC × List CDbNetplaneMacPool × ℕ
  | [], n => (.failed, pool, n)
  | info :: rest, n =>
      let dwMACStart := info.tRange.tStartMAC.dwData
      let dwMACEnd := info.tRange.tEndMAC.dwData
      match self.tryRange pool dwOUI dwMACStart dwMACEnd nKey draws n with
      | .divided => (.divided, pool, n)
      | .saved dwData pool => (.allocated (TUInt32MAC.set ⟨dwOUI, dwData⟩), pool, n)
      | .missed n =>
          match self.scanAllocMAC pool dwOUI dwMACStart dwMACEnd with
          | none => allocLoop dwOUI nKey draws rest n
          | some dwData =>
              match self.saveMAC2DB pool ⟨dwOUI, dwData⟩ with
              | some pool => (.allocated (TUInt32MAC.set ⟨dwOUI, dwData⟩), pool, n)
              | none => allocLoop dwOUI nKey draws rest n

def allocMACAtRange (order : FreeSort TMACRangeItem) (nKey : Int32) (draws : ℕ → UUIDValue)
    (vecMACRange : List TMACRangeItem) (dwOUI : UInt32) (n : ℕ) :
    Alloc TUInt32MAC × List CDbNetplaneMacPool × ℕ :=
  if vecMACRange.isEmpty then (.failed, pool, n)
  else
    let vecAvailableRange := self.getAvailableRange pool order vecMACRange
    if vecAvailableRange.isEmpty then (.failed, pool, n)
    else self.allocLoop pool dwOUI nKey draws vecAvailableRange n

def allocMAC (order : FreeSort TMACRangeItem) (nKey : Int32) (draws : ℕ → UUIDValue) :
    Alloc TUInt32MAC × List CDbNetplaneMacPool × ℕ :=
  match self.allocMACAtRange pool order nKey draws self.pOUI1MACRange TUInt32MAC.c_dwZTEOUI1 0 with
  | (.failed, _, n) =>
      self.allocMACAtRange pool order nKey draws self.pOUI2MACRange TUInt32MAC.c_dwZTEOUI2 n
  | result => result

end CMACPool

end Tecs
