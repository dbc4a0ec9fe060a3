import Mathlib

set_option autoImplicit false

namespace Tecs

/-- An address and its mask. The source keeps both in network order; here they are the words that
`N2HL` reads from them. -/
structure TIPv4Addr where
  uIP : UInt32
  uMask : UInt32
deriving Repr, DecidableEq

structure TIPV4AddrRangeItem where
  tIPStart : TIPv4Addr
  tIPEnd : TIPv4Addr
deriving Repr, DecidableEq

inductive ENChkIPv4AddrCode
  | IPV4_ADDR_ALL_ZEROS
  | IPV4_ADDR_ALL_ONES
  | IPV4_ADDR_MULTICAST
  | IPV4_ADDR_LOOPBACK
  | IPV4_ADDR_FIRST_ZERO
  | IPV4_ADDR_LAST_ONES
  | IPV4_ADDR_RESERVED
deriving Repr, DecidableEq

namespace CIPv4Addr

/-- One of the four octets, the most significant first. -/
def aucAddr (dwAddr : UInt32) (i : ℕ) : UInt8 := (dwAddr >>> UInt32.ofNat (24 - 8 * i)).toUInt8

def ofOctets (a b c d : UInt8) : UInt32 :=
  a.toUInt32 <<< 24 ||| b.toUInt32 <<< 16 ||| c.toUInt32 <<< 8 ||| d.toUInt32

def swapped (dwData : UInt32) : UInt32 :=
  (dwData &&& 0x000000ff) <<< 24 ||| (dwData &&& 0x0000ff00) <<< 8 |||
    (dwData &&& 0x00ff0000) >>> 8 ||| (dwData &&& 0xff000000) >>> 24

/-- The word in network order, on a host of either order. -/
def h2NL (isBigendianHost : Bool) (dwData : UInt32) : UInt32 :=
  if isBigendianHost then dwData else swapped dwData

def checkAddr (nCode : ENChkIPv4AddrCode) (uAddr : UInt32) : Bool :=
  match nCode with
  | .IPV4_ADDR_ALL_ZEROS => (List.range 4).all fun i => aucAddr uAddr i = 0x00
  | .IPV4_ADDR_ALL_ONES => (List.range 4).all fun i => aucAddr uAddr i = 0xFF
  | .IPV4_ADDR_MULTICAST => 0xE0 ≤ aucAddr uAddr 0 &&& 0xF0
  | .IPV4_ADDR_RESERVED => 0xF0 ≤ aucAddr uAddr 0 &&& 0xF0
  | .IPV4_ADDR_LOOPBACK => aucAddr uAddr 0 = 0x7F
  | .IPV4_ADDR_FIRST_ZERO => aucAddr uAddr 0 = 0x00
  | .IPV4_ADDR_LAST_ONES => aucAddr uAddr 3 = 0x00

/-- The first bit has to be set as long as any is. -/
def maskLoop : ℕ → UInt32 → Bool
  | 0, _ => true
  | left + 1, uiMask =>
      if uiMask = 0 then true
      else if 0x80000000 &&& uiMask = 0 then false
      else maskLoop left (uiMask <<< 1)

/-- After 32 shifts nothing is left of the mask. -/
def isValidMask (uMask : UInt32) : Bool :=
  !(checkAddr .IPV4_ADDR_ALL_ZEROS uMask || checkAddr .IPV4_ADDR_ALL_ONES uMask) &&
    maskLoop 32 uMask

def isValidHostAddr (uIP : UInt32) : Bool :=
  !(checkAddr .IPV4_ADDR_ALL_ZEROS uIP || checkAddr .IPV4_ADDR_ALL_ONES uIP ||
    checkAddr .IPV4_ADDR_LOOPBACK uIP || checkAddr .IPV4_ADDR_FIRST_ZERO uIP ||
    checkAddr .IPV4_ADDR_MULTICAST uIP || checkAddr .IPV4_ADDR_RESERVED uIP)

def isValid (tIPAddr : TIPv4Addr) : Bool :=
  isValidMask tIPAddr.uMask && isValidHostAddr tIPAddr.uIP &&
    !(0x0 = tIPAddr.uIP &&& ~~~tIPAddr.uMask || 0xFFFFFFFF = tIPAddr.uIP ||| ~~~tIPAddr.uMask) &&
    !(tIPAddr.uIP &&& ~~~tIPAddr.uMask = ~~~tIPAddr.uMask)

def prefixLoop : ℕ → UInt32 → ℕ
  | 0, _ => 0
  | left + 1, dwMask => if dwMask = 0 then 0 else prefixLoop left (dwMask <<< 1) + 1

def getMaskPrefixLen (uMask : UInt32) : ℕ := prefixLoop 32 uMask

end CIPv4Addr

namespace CIPv4AddrRange

open CIPv4Addr

/-- The ends may lie in different subnets. -/
def isValidIPv4Range (tIPv4AddrRange : TIPV4AddrRangeItem) : Bool :=
  isValid tIPv4AddrRange.tIPStart && isValid tIPv4AddrRange.tIPEnd &&
    getMaskPrefixLen tIPv4AddrRange.tIPStart.uMask =
      getMaskPrefixLen tIPv4AddrRange.tIPEnd.uMask &&
    tIPv4AddrRange.tIPStart.uIP ≤ tIPv4AddrRange.tIPEnd.uIP

def isSameSubnet (tIPv4AddrRange : TIPV4AddrRangeItem) : Bool :=
  tIPv4AddrRange.tIPStart.uIP &&& tIPv4AddrRange.tIPStart.uMask =
    tIPv4AddrRange.tIPEnd.uIP &&& tIPv4AddrRange.tIPEnd.uMask

theorem start_le {r : TIPV4AddrRangeItem} (valid : isValidIPv4Range r = true) :
    r.tIPStart.uIP ≤ r.tIPEnd.uIP := by
  simp only [isValidIPv4Range, Bool.and_eq_true, decide_eq_true_eq] at valid
  exact valid.2

theorem end_top {r : TIPV4AddrRangeItem} (valid : isValidIPv4Range r = true) :
    r.tIPEnd.uIP.toNat + 1 < 2 ^ 32 := by
  have below := r.tIPEnd.uIP.toNat_lt
  have other : r.tIPEnd.uIP ≠ 0xFFFFFFFF := by
    intro top
    simp only [isValidIPv4Range, isValid, isValidHostAddr, top, Bool.and_eq_true] at valid
    have ones : checkAddr .IPV4_ADDR_ALL_ONES 0xFFFFFFFF = true := by decide
    simp [ones] at valid
  have numbers : r.tIPEnd.uIP.toNat ≠ 0xFFFFFFFF := fun same => other (UInt32.toNat_inj.mp same)
  omega

end CIPv4AddrRange

end Tecs
