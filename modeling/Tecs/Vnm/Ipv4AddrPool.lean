import Tecs.Vnm.Ipv4Addr
import Tecs.Vnm.RangeAlloc

set_option autoImplicit false

namespace Tecs

structure CDbLogicNetworkIpPool where
  uuid : String
  ipNum : UInt32
  maskNum : UInt32
deriving Repr, DecidableEq

/-- The pool of one logic network over the ranges that the database holds for it. `Init` refuses an
empty UUID. -/
structure CIPv4AddrPool where
  strNetworkUUID : String
  pIPv4AddrRange : List TIPV4AddrRangeItem
  named : strNetworkUUID ≠ ""

namespace CIPv4AddrPool

open CIPv4Addr

variable (self : CIPv4AddrPool) (pool : List CDbLogicNetworkIpPool)

/-- The address has to lie in a range of the network, and the network may not hold it, with
whatever mask. -/
def checkAddIpPool (ipNum : UInt32) : Bool :=
  self.pIPv4AddrRange.any (fun r => r.tIPStart.uIP ≤ ipNum && ipNum ≤ r.tIPEnd.uIP) &&
    !pool.any fun row => row.uuid = self.strNetworkUUID && row.ipNum = ipNum

def saveIPv4Addr2DB (tItem : TIPv4Addr) : Option (List CDbLogicNetworkIpPool) :=
  if self.checkAddIpPool pool tItem.uIP then
    some (pool ++ [⟨self.strNetworkUUID, tItem.uIP, tItem.uMask⟩])
  else none

def queryByLnRange (dwIPBegin dwIPEnd : UInt32) : List CDbLogicNetworkIpPool :=
  pool.filter fun row =>
    row.uuid = self.strNetworkUUID && dwIPBegin ≤ row.ipNum && row.ipNum ≤ dwIPEnd

/-- Crossed ends are refused. -/
def queryAllocNum (dwIPBegin dwIPEnd : UInt32) : Option ℕ :=
  if dwIPBegin > dwIPEnd then none else some (self.queryByLnRange pool dwIPBegin dwIPEnd).length

def getIPv4AddrCnt (tRange : TIPV4AddrRangeItem) : Option ℕ :=
  self.queryAllocNum pool tRange.tIPStart.uIP tRange.tIPEnd.uIP

/-- The number of addresses of a range. -/
def interval (tRange : TIPV4AddrRangeItem) : UInt32 := tRange.tIPEnd.uIP - tRange.tIPStart.uIP + 1

def getAvailableRange (order : FreeSort TIPV4AddrRangeItem)
    (vecIPv4Range : List TIPV4AddrRangeItem) : List (TRangeUsedInfo TIPV4AddrRangeItem) :=
  Tecs.getAvailableRange (self.getIPv4AddrCnt pool) interval order vecIPv4Range

/-- What the octet of the end is above that of the start, plus one: it may be zero or negative. -/
def divisor (tIPRange : TIPV4AddrRangeItem) (i : ℕ) : Int32 :=
  Int32.ofNat (aucAddr tIPRange.tIPEnd.uIP i).toNat -
    Int32.ofNat (aucAddr tIPRange.tIPStart.uIP i).toNat + 1

/-- An octet of the start moved by the remainder of a factor, which may be negative as well. There
is none where the division traps: by zero, or of the smallest number by -1. -/
def movedOctet (tIPRange : TIPV4AddrRangeItem) (i : ℕ) (nFactor : Int32) : Option UInt8 :=
  if divisor tIPRange i = 0 ∨ (divisor tIPRange i = -1 ∧ nFactor = Int32.minValue) then none
  else some (aucAddr tIPRange.tIPStart.uIP i + (nFactor % divisor tIPRange i).toUInt32.toUInt8)

def nFactor (nKey : Int32) (uuid : UUIDValue) : ℕ → Int32
  | 0 => uuid.nFactorA
  | 1 => uuid.nFactorB
  | 2 => uuid.nFactorC
  | _ => uuid.nFactorD.toInt32 * 102317 + uuid.nFactorE.toInt32 * 8317 + uuid.nFactorA * 3331 +
      uuid.nFactorB * 2179 + uuid.nFactorC * 9973 + nKey * 5711 + 382457

def calcIPv4Addr (tIPRange : TIPV4AddrRangeItem) (nKey : Int32) (uuid : UUIDValue) :
    Option UInt32 := do
  let a ← movedOctet tIPRange 0 (nFactor nKey uuid 0)
  let b ← movedOctet tIPRange 1 (nFactor nKey uuid 1)
  let c ← movedOctet tIPRange 2 (nFactor nKey uuid 2)
  let d ← movedOctet tIPRange 3 (nFactor nKey uuid 3)
  return ofOctets a b c d

def tryRange (tIPRange : TIPV4AddrRangeItem) (nKey : Int32) (draws : ℕ → UUIDValue) (n : ℕ) :
    Try (List CDbLogicNetworkIpPool) :=
  match calcIPv4Addr tIPRange nKey (draws n) with
  | none => .divided
  | some dwAddr =>
      tryLoop (fun dwAddr => self.saveIPv4Addr2DB pool ⟨dwAddr, tIPRange.tIPStart.uMask⟩)
        (fun n => calcIPv4Addr tIPRange nKey (draws n)) (interval tIPRange)
        tIPRange.tIPStart.uIP 16 0 (n + 1) dwAddr

/-- Rows that hold an address under another mask are not seen. -/
def scanAllocIP (tIPRange : TIPV4AddrRangeItem) : Option UInt32 :=
  let vecIPOut := self.queryByLnRange pool tIPRange.tIPStart.uIP tIPRange.tIPEnd.uIP
  scanRange (fun i => vecIPOut.any fun row =>
      row.ipNum = i && row.maskNum = tIPRange.tIPStart.uMask)
    tIPRange.tIPStart.uIP tIPRange.tIPEnd.uIP

/-- One range after the other, up to the first that gives an address. -/
def allocLoop (nKey : Int32) (draws : ℕ → UUIDValue) :
    List (TRangeUsedInfo TIPV4AddrRangeItem) → ℕ → Alloc TIPv4Addr × List CDbLogicNetworkIpPool
  | [], _ => (.failed, pool)
  | info :: rest, n =>
      match self.tryRange pool info.tRange nKey draws n with
      | .divided => (.divided, pool)
      | .saved dwAddr pool => (.allocated ⟨dwAddr, info.tRange.tIPStart.uMask⟩, pool)
      | .missed n =>
          match self.scanAllocIP pool info.tRange with
          | none => allocLoop nKey draws rest n
          | some dwAddr =>
              match self.saveIPv4Addr2DB pool ⟨dwAddr, info.tRange.tIPStart.uMask⟩ with
              | some pool => (.allocated ⟨dwAddr, info.tRange.tIPStart.uMask⟩, pool)
              | none => allocLoop nKey draws rest n

def allocIPv4Addr (order : FreeSort TIPV4AddrRangeItem) (nKey : Int32)
    (draws : ℕ → UUIDValue) : Alloc TIPv4Addr × List CDbLogicNetworkIpPool :=
  let vecAvailableRange := self.getAvailableRange pool order self.pIPv4AddrRange
  if vecAvailableRange.isEmpty then (.failed, pool)
  else self.allocLoop pool nKey draws vecAvailableRange 0

end CIPv4AddrPool

end Tecs
