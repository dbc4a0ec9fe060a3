import Tecs.Evb.Cdcp
import Tecs.Evb.EvbTlv
import Tecs.Evb.VdpRxReads

set_option autoImplicit false

/-! What CDCP and the EVB TLV read of a TLV that comes in, and what an error leaves as it was. -/

namespace Tecs.TlvReads

open Tecs.Vdp.RxReads (Memory bytesAt bytesAt_succ length_bytesAt Access TlvRange)
open Tecs.Cdcp (TagCdcpRunningData TagCdcpScidSvidPair CdcpBits EMCdcpRole UnpackedTlv hostWord
  hton24 unpackScidSvid LLDP_CDCP_SUBTYPE OUI_IEEE_8021 ORG_SPECIFIC_TLV)
open Tecs.Evbtlv (EvbPort EvbtlvInfo Negotiation evbtlvGetconfig negotiateRRCTR negotiateRRSTAT
  negotiateVIDorGID negotiateParameters LLDP_EVBTLV_SUBTYPE EVBSYS_TYPE_BRIDGE EVBSYS_TYPE_STATION)

inductive RChange
  | tlvOk | tlvErr | subtypeInvalid
deriving Repr, DecidableEq

/-- A read for the TLV that is at the first address. -/
def readTlv (length : UInt16) (pos count : ℕ) : Access := .read pos count ⟨0, length.toNat⟩

section Cdcp

/-- Both the call for the TLV and the one for what is in it end so. -/
structure CdcpRx (Ret : Type) where
  ret : Ret
  isStoredTlv : Bool
  data : TagCdcpRunningData
  accesses : List Access
deriving Repr, DecidableEq

/-- `sizeof(TCdcpTlv)` taken off a length: an unsigned subtraction of 32 or 64 bits. -/
def subCdcpTlv (wide : Bool) (length : UInt16) : ℕ :=
  let size := if wide then 2 ^ 64 else 2 ^ 32
  (length.toNat + size - 8) % size

/-- How often a loop up to a signed count of 32 bits is run. -/
def listCount (value : ℕ) : ℕ := if value % 2 ^ 32 < 2 ^ 31 then value % 2 ^ 32 else 0

def pairAt (mem : Memory) (i : ℕ) : TagCdcpScidSvidPair :=
  unpackScidSvid (mem (8 + 3 * i)) (mem (8 + 3 * i + 1)) (mem (8 + 3 * i + 2))

/-- The bit-fields at the fourth address. -/
def bitsAt (bigendian : Bool) (mem : Memory) : CdcpBits :=
  CdcpBits.ofValue bigendian (hostWord bigendian (mem 4) (mem 5) (mem 6) (mem 7))

def roleAt (bigendian : Bool) (mem : Memory) : EMCdcpRole :=
  if (bitsAt bigendian mem).bitRole = 1 then .s else .b

def chnCapAt (bigendian : Bool) (mem : Memory) : UInt16 :=
  UInt16.ofNat (bitsAt bigendian mem).bitChnCap

variable (alloc : ℕ → Bool) (mem : Memory) (length : UInt16)

/-- The loop over the pairs from pair `i` on: whether there was memory for all, the pairs that are
in the list then, and what was read. -/
def unpackPairs : ℕ → ℕ → Bool × List TagCdcpScidSvidPair × List Access
  | 0, _ => (true, [], [])
  | left + 1, i =>
      let entry := readTlv length (8 + 3 * i) 3
      if alloc i then
        let rest := unpackPairs left (i + 1)
        (rest.1, pairAt mem i :: rest.2.1, entry :: rest.2.2)
      else (false, [], [entry])

variable (wide bigendian : Bool) (data : TagCdcpRunningData)

def unpackCdcpTlv (type : UInt8) : CdcpRx Bool :=
  let subtype := readTlv length 3 1
  if mem 3 ≠ LLDP_CDCP_SUBTYPE then ⟨true, false, data, [subtype]⟩
  else
    let data := { data with
      pRxTlv := some ⟨type, length, bytesAt mem 0 length.toNat⟩
      ucRemoteRole := roleAt bigendian mem
      bRemoteSCompEnable := (bitsAt bigendian mem).bitSComp = 1
      wRemoteChnCap := chnCapAt bigendian mem }
    let accesses := [subtype, readTlv length 4 4]
    if data.wRemoteChnCap > 0x0FFF then ⟨false, false, data, accesses⟩
    else
      let data := { data with lstRemoteSVIDList := [] }
      let left := subCdcpTlv wide length
      let accesses := accesses ++ [.sub length.toNat 8]
      if left % 3 ≠ 0 then ⟨false, false, data, accesses⟩
      else
        let (whole, lstRemoteSVIDList, entries) :=
          unpackPairs alloc mem length (listCount (left / 3)) 0
        ⟨whole, whole, { data with lstRemoteSVIDList },
          accesses ++ .sub length.toNat 8 :: entries⟩

/-- A TLV of a frame, of whatever type, with what the modules before made of it. -/
def cdcpRChange (enabled isStoredTlv : Bool) (type : UInt8) : CdcpRx RChange :=
  let data :=
    if type = 1 then { data with pRxTlv := none }
    else if type = 0 ∧ data.pRxTlv.isSome then { Cdcp.runCdcpSM data with pRxTlv := none }
    else data
  if isStoredTlv then ⟨.tlvOk, isStoredTlv, data, []⟩
  else if type = ORG_SPECIFIC_TLV then
    if length < 4 then ⟨.tlvErr, isStoredTlv, { data with pRxTlv := none }, []⟩
    else
      let oui := readTlv length 0 3
      if bytesAt mem 0 3 ≠ hton24 OUI_IEEE_8021 then ⟨.subtypeInvalid, isStoredTlv, data, [oui]⟩
      else if !enabled then ⟨.tlvOk, isStoredTlv, data, [oui]⟩
      else
        let done := unpackCdcpTlv alloc mem length wide bigendian data type
        if done.ret then ⟨.tlvOk, done.isStoredTlv, done.data, oui :: done.accesses⟩
        else ⟨.tlvErr, done.isStoredTlv, { done.data with pRxTlv := none }, oui :: done.accesses⟩
  else ⟨.tlvOk, isStoredTlv, data, []⟩

end Cdcp

section Evbtlv

structure EvbRx (Ret : Type) where
  ret : Ret
  tlvStore : Bool
  port : EvbPort
  accesses : List Access
deriving Repr, DecidableEq

/-- The bit-fields at the fourth address. -/
def infoAt (mem : Memory) : EvbtlvInfo := (EvbtlvInfo.ofBytes (bytesAt mem 4 5)).getD .zero

variable (mem : Memory) (length : UInt16) (bigendian : Bool)

/-- What is read at an address of the structure: a host of the one byte order has copied all of it
before. -/
def readInfo (positions : List ℕ) : List Access :=
  if bigendian then positions.map fun pos => readTlv length pos 1 else []

def evbtlvUnpack (enabled setCml : Bool) (port : EvbPort) : EvbRx Bool :=
  match port.data with
  | none => ⟨false, false, port, []⟩
  | some data =>
      let own := evbtlvGetconfig port
      if !enabled then ⟨false, false, port, []⟩
      else
        let copy := if bigendian then [] else [readTlv length 0 9]
        let subtype := copy ++ readInfo length bigendian [3]
        if mem 3 ≠ LLDP_EVBTLV_SUBTYPE then ⟨true, false, port, subtype⟩
        else
          let other := infoAt mem
          let mode := subtype ++ readInfo length bigendian [7]
          let parameters := readInfo length bigendian [6, 6, 7, 8]
          if other.evbmode = EVBSYS_TYPE_STATION then
            if own.evbmode ≠ EVBSYS_TYPE_BRIDGE then ⟨false, false, port, mode⟩
            else
              let relay := mode ++ readInfo length bigendian [5]
              match negotiateRRCTR setCml own other ⟨port, data, 0⟩ with
              | none => ⟨false, false, port, relay⟩
              | some neg =>
                  let done := (negotiateParameters own other (negotiateVIDorGID own other neg)).done
                  ⟨done.ret, done.tlvStore, done.port,
                    relay ++ readInfo length bigendian [5] ++ parameters⟩
          else if other.evbmode = EVBSYS_TYPE_BRIDGE then
            if own.evbmode ≠ EVBSYS_TYPE_STATION then ⟨false, false, port, mode⟩
            else
              let neg := negotiateRRSTAT other ⟨port, data, 0⟩
              let done := (negotiateParameters own other neg).done
              ⟨done.ret, done.tlvStore, done.port,
                mode ++ readInfo length bigendian [4] ++ parameters⟩
          else ⟨false, false, port, mode⟩

/-- A TLV of a frame, of whatever type, with what the modules before made of it. -/
def evbtlvRchange (enabled setCml tlvStore : Bool) (type : UInt8) (port : EvbPort) :
    EvbRx RChange :=
  if tlvStore then ⟨.tlvOk, tlvStore, port, []⟩
  else if port.data.isNone then ⟨.tlvErr, tlvStore, port, []⟩
  else if type = ORG_SPECIFIC_TLV then
    if length < 4 then ⟨.tlvErr, tlvStore, port, []⟩
    else
      let oui := readTlv length 0 3
      if bytesAt mem 0 3 ≠ hton24 OUI_IEEE_8021 then ⟨.tlvErr, tlvStore, port, [oui]⟩
      else
        let done := evbtlvUnpack mem length bigendian enabled setCml port
        ⟨if done.ret then .tlvOk else .tlvErr, done.tlvStore, done.port, oui :: done.accesses⟩
  else ⟨.tlvOk, tlvStore, port, []⟩

end Evbtlv

section Conditions

/-- The reads stay in the TLV, no subtraction wraps, and an error leaves what was received before
as it was. -/
structure CdcpRx.Right (length : UInt16) (before : TagCdcpRunningData) (rx : CdcpRx RChange) :
    Prop where
  safe : ∀ access ∈ rx.accesses, access.Safe length.toNat
  kept : rx.ret ≠ .tlvOk →
    rx.data.ucRemoteRole = before.ucRemoteRole ∧ rx.data.wRemoteChnCap = before.wRemoteChnCap ∧
      rx.data.lstRemoteSVIDList = before.lstRemoteSVIDList

structure EvbRx.Right (length : UInt16) (before : EvbPort) (rx : EvbRx RChange) : Prop where
  safe : ∀ access ∈ rx.accesses, access.Safe length.toNat
  kept : rx.ret ≠ .tlvOk → rx.port = before

variable (alloc : ℕ → Bool) (mem : Memory) (length : UInt16) (bigendian enabled isStoredTlv : Bool)

/-- The pairs there is memory for, of a TLV that holds a whole number of them. -/
def allocated : List TagCdcpScidSvidPair :=
  if (length.toNat - 8) % 3 ≠ 0 then []
  else ((List.range' 0 ((length.toNat - 8) / 3)).takeWhile alloc).map (pairAt mem)

/-- Where the structure was not announced it is not read. Where it was the TLV holds it, and whole
pairs, all with memory, unless what it says is there already. -/
def CdcpFits (data : TagCdcpRunningData) : Prop :=
  isStoredTlv = true ∨ enabled = false ∨ mem 3 ≠ LLDP_CDCP_SUBTYPE ∨
    8 ≤ length.toNat ∧
      ((length.toNat - 8) % 3 = 0 ∧
          (∀ i ∈ List.range' 0 ((length.toNat - 8) / 3), alloc i = true) ∨
        data.ucRemoteRole = roleAt bigendian mem ∧
          data.wRemoteChnCap = chnCapAt bigendian mem ∧
          data.lstRemoteSVIDList = allocated alloc mem length)

/-- The mode of the TLV is not that of the other side, or there is no hardware port to switch. -/
def Mismatch (port : EvbPort) : Prop :=
  if (infoAt mem).evbmode = EVBSYS_TYPE_STATION then
    (evbtlvGetconfig port).evbmode ≠ EVBSYS_TYPE_BRIDGE ∨
      port.pIssPort = none ∧ ∀ data ∈ port.data,
        data.t_evbtlv_info.rrctr ≠ ((infoAt mem).rrreq && (evbtlvGetconfig port).rrcap)
  else if (infoAt mem).evbmode = EVBSYS_TYPE_BRIDGE then
    (evbtlvGetconfig port).evbmode ≠ EVBSYS_TYPE_STATION
  else True

/-- The TLV holds the structure, unless it is not read as far as that. -/
def EvbFits (port : EvbPort) : Prop :=
  isStoredTlv = true ∨ port.data = none ∨ enabled = false ∨ 9 ≤ length.toNat ∨
    bigendian = true ∧
      (mem 3 ≠ LLDP_EVBTLV_SUBTYPE ∨ 8 ≤ length.toNat ∧ Mismatch mem port)

end Conditions

section Reads

variable {mem : Memory} {length : UInt16}

theorem readTlv_safe_iff {pos count : ℕ} :
    (readTlv length pos count).Safe length.toNat ↔ pos + count ≤ length.toNat :=
  ⟨fun safe => safe.within, fun within => ⟨within, ⟨Nat.zero_le pos, within⟩, trivial⟩⟩

theorem subCdcpTlv_of_long (wide : Bool) (long : 8 ≤ length.toNat) :
    subCdcpTlv wide length = length.toNat - 8 := by
  have small := length.toNat_lt
  unfold subCdcpTlv
  cases wide with
  | false =>
      simp only [Bool.false_eq_true, if_false]
      omega
  | true =>
      simp only [if_true]
      omega

theorem listCount_of_small {value : ℕ} (small : value < 2 ^ 31) : listCount value = value := by
  unfold listCount
  rw [Nat.mod_eq_of_lt (by omega), if_pos small]

theorem chnCapAt_le (bigendian : Bool) (mem : Memory) : ¬ chnCapAt bigendian mem > 0x0FFF := by
  have small := (bitsAt bigendian mem).bitChnCap.isLt
  rw [gt_iff_lt, UInt16.lt_iff_toNat_lt, chnCapAt, UInt16.toNat_ofNat']
  change ¬ 4095 < _
  omega

end Reads

section Pairs

variable {alloc : ℕ → Bool} {mem : Memory} {length : UInt16}

theorem unpackPairs_succ (left i : ℕ) :
    unpackPairs alloc mem length (left + 1) i =
      if alloc i then
        ((unpackPairs alloc mem length left (i + 1)).1,
          pairAt mem i :: (unpackPairs alloc mem length left (i + 1)).2.1,
          readTlv length (8 + 3 * i) 3 :: (unpackPairs alloc mem length left (i + 1)).2.2)
      else (false, [], [readTlv length (8 + 3 * i) 3]) := rfl

theorem unpackPairs_ret : ∀ {left i : ℕ}, (unpackPairs alloc mem length left i).1 = true ↔
    ∀ j ∈ List.range' i left, alloc j = true := by
  intro left
  induction left with
  | zero => simp [unpackPairs]
  | succ left ih =>
      intro i
      rw [List.range'_succ, List.forall_mem_cons, ← ih, unpackPairs_succ]
      cases memory : alloc i with
      | false => simp
      | true => simp

theorem unpackPairs_list : ∀ {left i : ℕ}, (unpackPairs alloc mem length left i).2.1 =
    ((List.range' i left).takeWhile alloc).map (pairAt mem) := by
  intro left
  induction left with
  | zero => simp [unpackPairs]
  | succ left ih =>
      intro i
      rw [List.range'_succ, unpackPairs_succ]
      cases memory : alloc i with
      | false => simp [memory]
      | true => simp [memory, ih]

/-- Pair after pair, up to the last of the count. -/
theorem unpackPairs_safe : ∀ {left i : ℕ}, 8 + 3 * (i + left) ≤ length.toNat →
    ∀ access ∈ (unpackPairs alloc mem length left i).2.2, access.Safe length.toNat := by
  intro left
  induction left with
  | zero => exact fun _ access member => absurd member List.not_mem_nil
  | succ left ih =>
      intro i room
      have entry : (readTlv length (8 + 3 * i) 3).Safe length.toNat :=
        readTlv_safe_iff.mpr (by omega)
      rw [unpackPairs_succ]
      cases memory : alloc i with
      | false => simpa using entry
      | true =>
          intro access member
          cases List.mem_cons.mp member with
          | inl same => exact same ▸ entry
          | inr later => exact ih (by omega) access later

end Pairs

section CdcpReads

variable {alloc : ℕ → Bool} {mem : Memory} {length : UInt16} {wide bigendian : Bool}
  {data : TagCdcpRunningData} {type : UInt8}

/-- What is in the bit-fields is read whatever the length is. -/
theorem unpackCdcpTlv_reads (announced : mem 3 = LLDP_CDCP_SUBTYPE) :
    readTlv length 4 4 ∈
      (unpackCdcpTlv alloc mem length wide bigendian data type).accesses := by
  unfold unpackCdcpTlv
  dsimp only
  rw [if_neg (not_not.mpr announced), if_neg (chnCapAt_le bigendian mem)]
  split
  · simp
  · simp

/-- A TLV that holds the structure: what it says is taken over before it is refused. -/
theorem unpackCdcpTlv_long (announced : mem 3 = LLDP_CDCP_SUBTYPE) (long : 8 ≤ length.toNat) :
    let rx := unpackCdcpTlv alloc mem length wide bigendian data type
    (rx.ret = true ↔ (length.toNat - 8) % 3 = 0 ∧
        ∀ i ∈ List.range' 0 ((length.toNat - 8) / 3), alloc i = true) ∧
      (rx.data.ucRemoteRole = roleAt bigendian mem ∧
        rx.data.wRemoteChnCap = chnCapAt bigendian mem ∧
        rx.data.lstRemoteSVIDList = allocated alloc mem length) ∧
      ∀ access ∈ rx.accesses, access.Safe length.toNat := by
  have small := length.toNat_lt
  have subtype : (readTlv length 3 1).Safe length.toNat := readTlv_safe_iff.mpr (by omega)
  have bits : (readTlv length 4 4).Safe length.toNat := readTlv_safe_iff.mpr long
  have exact' : (Access.sub length.toNat 8).Safe length.toNat := ⟨trivial, trivial, long⟩
  dsimp only
  unfold unpackCdcpTlv allocated
  dsimp only
  rw [if_neg (not_not.mpr announced), if_neg (chnCapAt_le bigendian mem),
    subCdcpTlv_of_long wide long]
  by_cases odd : (length.toNat - 8) % 3 ≠ 0
  · rw [if_pos odd, if_pos odd]
    refine ⟨?_, ⟨rfl, rfl, rfl⟩, ?_⟩
    · exact iff_of_false Bool.false_ne_true fun even => odd even.1
    · intro access member
      simp only [List.cons_append, List.nil_append, List.mem_cons, List.not_mem_nil,
        or_false] at member
      rcases member with same | same | same
      · exact same ▸ subtype
      · exact same ▸ bits
      · exact same ▸ exact'
  · rw [if_neg odd, if_neg odd, listCount_of_small (by omega)]
    rw [not_not] at odd
    refine ⟨?_, ⟨rfl, rfl, unpackPairs_list⟩, ?_⟩
    · rw [unpackPairs_ret]
      exact ⟨fun all => ⟨odd, all⟩, fun even => even.2⟩
    · have entries : ∀ access ∈ (unpackPairs alloc mem length ((length.toNat - 8) / 3) 0).2.2,
          access.Safe length.toNat := unpackPairs_safe (by omega)
      intro access member
      simp only [List.cons_append, List.nil_append, List.mem_cons] at member
      rcases member with same | same | same | same | later
      · exact same ▸ subtype
      · exact same ▸ bits
      · exact same ▸ exact'
      · exact same ▸ exact'
      · exact entries access later

variable {enabled isStoredTlv : Bool}

theorem cdcpRChange_eq (long : ¬ length < 4) (oui : bytesAt mem 0 3 = hton24 OUI_IEEE_8021) :
    cdcpRChange alloc mem length wide bigendian data enabled isStoredTlv ORG_SPECIFIC_TLV =
      if isStoredTlv then ⟨.tlvOk, isStoredTlv, data, []⟩
      else if !enabled then ⟨.tlvOk, isStoredTlv, data, [readTlv length 0 3]⟩
      else
        let done := unpackCdcpTlv alloc mem length wide bigendian data ORG_SPECIFIC_TLV
        if done.ret then ⟨.tlvOk, done.isStoredTlv, done.data, readTlv length 0 3 :: done.accesses⟩
        else ⟨.tlvErr, done.isStoredTlv, { done.data with pRxTlv := none },
          readTlv length 0 3 :: done.accesses⟩ := by
  have other : ¬ ORG_SPECIFIC_TLV = 1 := by decide
  have last : ¬ (ORG_SPECIFIC_TLV = 0 ∧ data.pRxTlv.isSome) := fun zero =>
    absurd zero.1 (by decide)
  unfold cdcpRChange
  dsimp only
  rw [if_neg other, if_neg last, if_pos rfl, if_neg long, if_neg (not_not.mpr oui)]

theorem cdcp_right_iff (long : ¬ length < 4) (oui : bytesAt mem 0 3 = hton24 OUI_IEEE_8021) :
    (cdcpRChange alloc mem length wide bigendian data enabled isStoredTlv
        ORG_SPECIFIC_TLV).Right length data ↔
      CdcpFits alloc mem length bigendian enabled isStoredTlv data := by
  have room : 4 ≤ length.toNat := by
    rw [UInt16.lt_iff_toNat_lt, not_lt] at long
    exact long
  have head : (readTlv length 0 3).Safe length.toNat := readTlv_safe_iff.mpr (by omega)
  rw [cdcpRChange_eq long oui]
  unfold CdcpFits
  cases isStoredTlv with
  | true => exact iff_of_true ⟨by simp, fun error => absurd rfl error⟩ (Or.inl rfl)
  | false =>
  rw [if_neg Bool.false_ne_true]
  cases enabled with
  | false =>
      refine iff_of_true ⟨?_, fun error => absurd rfl error⟩ (Or.inr (Or.inl rfl))
      simpa using head
  | true =>
  rw [Bool.not_true, if_neg Bool.false_ne_true]
  dsimp only
  by_cases announced : mem 3 = LLDP_CDCP_SUBTYPE
  · by_cases whole : 8 ≤ length.toNat
    · have ⟨ret, ⟨role, cap, list⟩, safe⟩ := @unpackCdcpTlv_long alloc mem length wide bigendian
        data ORG_SPECIFIC_TLV announced whole
      have reads : ∀ access ∈ readTlv length 0 3 :: (unpackCdcpTlv alloc mem length wide bigendian
          data ORG_SPECIFIC_TLV).accesses, access.Safe length.toNat :=
        List.forall_mem_cons.mpr ⟨head, safe⟩
      by_cases accepted : (unpackCdcpTlv alloc mem length wide bigendian data
          ORG_SPECIFIC_TLV).ret = true
      · rw [if_pos accepted]
        have fits := ret.mp accepted
        exact iff_of_true ⟨reads, fun error => absurd rfl error⟩
          (Or.inr (Or.inr (Or.inr ⟨whole, Or.inl fits⟩)))
      · rw [if_neg accepted]
        constructor
        · intro right
          have ⟨sameRole, sameCap, sameList⟩ := right.kept (by simp)
          refine Or.inr (Or.inr (Or.inr ⟨whole, Or.inr ⟨?_, ?_, ?_⟩⟩))
          · rw [← sameRole]
            exact role
          · rw [← sameCap]
            exact cap
          · rw [← sameList]
            exact list
        · intro fits
          have ⟨_, either⟩ := ((fits.resolve_left Bool.false_ne_true).resolve_left
            Bool.true_eq_false.mp).resolve_left (not_not.mpr announced)
          have ⟨sameRole, sameCap, sameList⟩ :=
            either.resolve_left fun can => accepted (ret.mpr can)
          exact ⟨reads, fun _ => ⟨role.trans sameRole.symm, cap.trans sameCap.symm,
            list.trans sameList.symm⟩⟩
    · have beyond : ¬ (readTlv length 4 4).Safe length.toNat := fun safe =>
        whole (readTlv_safe_iff.mp safe)
      apply iff_of_false
      · intro right
        have reads := @unpackCdcpTlv_reads alloc mem length wide bigendian data ORG_SPECIFIC_TLV
          announced
        have safe := right.safe
        split at safe
        · exact beyond (safe _ (List.mem_cons_of_mem _ reads))
        · exact beyond (safe _ (List.mem_cons_of_mem _ reads))
      · rintro (stored | off | other | fits)
        · exact absurd stored (by decide)
        · exact absurd off (by decide)
        · exact other announced
        · exact whole fits.1
  · have other : unpackCdcpTlv alloc mem length wide bigendian data ORG_SPECIFIC_TLV =
        ⟨true, false, data, [readTlv length 3 1]⟩ := by
      unfold unpackCdcpTlv
      rw [if_pos announced]
    have subtype : (readTlv length 3 1).Safe length.toNat := readTlv_safe_iff.mpr room
    rw [other]
    refine iff_of_true ⟨?_, fun error => absurd rfl error⟩ (Or.inr (Or.inr (Or.inl announced)))
    simp only [if_true, List.forall_mem_cons]
    exact ⟨head, subtype, by simp⟩

end CdcpReads

section EvbReads

variable {mem : Memory} {length : UInt16} {bigendian setCml : Bool} {port : EvbPort}

theorem readInfo_safe {positions : List ℕ} :
    (∀ access ∈ readInfo length true positions, access.Safe length.toNat) ↔
      ∀ pos ∈ positions, pos < length.toNat := by
  unfold readInfo
  rw [if_pos rfl, List.forall_mem_map]
  constructor
  · intro safe pos member
    exact readTlv_safe_iff.mp (safe pos member)
  · intro within pos member
    exact readTlv_safe_iff.mpr (within pos member)

/-- The relay cannot be switched exactly where it has to be and there is no hardware port. -/
theorem negotiateRRCTR_none_iff {own other : EvbtlvInfo} {neg : Negotiation} :
    negotiateRRCTR setCml own other neg = none ↔
      neg.port.pIssPort = none ∧ neg.info.rrctr ≠ (other.rrreq && own.rrcap) := by
  unfold negotiateRRCTR
  dsimp only
  split
  · rename_i switch
    cases iss : neg.port.pIssPort with
    | none => simp [switch]
    | some issPort =>
        dsimp only
        by_cases done : (Evbtlv.evbSetCml setCml (if (other.rrreq && own.rrcap) then 0 else 5)
            neg.port).1 = true
        · rw [if_pos done]
          simp
        · rw [if_neg done]
          simp
  · rename_i same
    simp only [reduceCtorEq, false_iff, not_and]
    exact fun _ => same

theorem evbtlvUnpack_kept {enabled : Bool}
    (error : (evbtlvUnpack mem length bigendian enabled setCml port).ret = false) :
    (evbtlvUnpack mem length bigendian enabled setCml port).port = port := by
  unfold evbtlvUnpack at error ⊢
  cases known : port.data with
  | none => rfl
  | some data =>
  rw [known] at error
  dsimp only at error ⊢
  split
  · rfl
  rename_i on
  rw [if_neg on] at error
  split
  · rfl
  rename_i announced
  rw [if_neg announced] at error
  split
  · rename_i station
    rw [if_pos station] at error
    split
    · rfl
    rename_i bridge
    rw [if_neg bridge] at error
    split
    · rfl
    · rename_i neg done
      rw [done] at error
      exact absurd error Bool.true_eq_false.mp
  · rename_i station
    rw [if_neg station] at error
    split
    · rename_i mode
      rw [if_pos mode] at error
      split
      · rfl
      · rename_i own
        rw [if_neg own] at error
        exact absurd error Bool.true_eq_false.mp
    · rfl

/-- The one byte order copies the whole structure first. -/
theorem evbtlvUnpack_copies {data : Evbtlv.EvbtlvData} (known : port.data = some data) :
    (evbtlvUnpack mem length false true setCml port).accesses = [readTlv length 0 9] := by
  unfold evbtlvUnpack readInfo
  rw [known]
  simp only [Bool.not_true, Bool.false_eq_true, if_false, List.append_nil]
  split
  · rfl
  split
  · split
    · rfl
    · split
      · rfl
      · rfl
  · split
    · split
      · rfl
      · rfl
    · rfl

/-- The other reads a field when it comes to it. -/
theorem evbtlvUnpack_reads_iff {data : Evbtlv.EvbtlvData} (known : port.data = some data)
    (room : 4 ≤ length.toNat) :
    (∀ access ∈ (evbtlvUnpack mem length true true setCml port).accesses,
        access.Safe length.toNat) ↔
      9 ≤ length.toNat ∨
        mem 3 ≠ LLDP_EVBTLV_SUBTYPE ∨ 8 ≤ length.toNat ∧ Mismatch mem port := by
  unfold evbtlvUnpack Mismatch
  rw [known]
  simp only [Bool.not_true, Bool.false_eq_true, if_false, if_true, List.nil_append]
  by_cases announced : mem 3 = LLDP_EVBTLV_SUBTYPE
  · rw [if_neg (not_not.mpr announced)]
    simp only [announced, ne_eq, not_true_eq_false, false_or]
    by_cases station : (infoAt mem).evbmode = EVBSYS_TYPE_STATION
    · rw [if_pos station, if_pos station]
      by_cases bridge : (evbtlvGetconfig port).evbmode = EVBSYS_TYPE_BRIDGE
      · rw [if_neg (not_not.mpr bridge)]
        simp only [bridge, not_true_eq_false, false_or, Option.mem_def, Option.some.injEq,
          forall_eq']
        have none_iff := @negotiateRRCTR_none_iff setCml (evbtlvGetconfig port) (infoAt mem)
          ⟨port, data, 0⟩
        cases relay : negotiateRRCTR setCml (evbtlvGetconfig port) (infoAt mem)
            ⟨port, data, 0⟩ with
        | none =>
            have ends := none_iff.mp relay
            simp only [List.forall_mem_append, readInfo_safe, List.forall_mem_singleton]
            constructor
            · intro reads
              exact Or.inr ⟨reads.1.2, ends⟩
            · intro fits
              omega
        | some neg =>
            have goes : ¬ (port.pIssPort = none ∧
                data.t_evbtlv_info.rrctr ≠
                  ((infoAt mem).rrreq && (evbtlvGetconfig port).rrcap)) := by
              intro ends
              rw [none_iff.mpr ends] at relay
              cases relay
            simp only [List.forall_mem_append, readInfo_safe, List.forall_mem_cons,
              List.not_mem_nil, false_implies, implies_true, and_true]
            constructor
            · intro reads
              exact Or.inl reads.2.2.2.2
            · intro fits
              have whole : 9 ≤ length.toNat := fits.resolve_right fun ends => goes ends.2
              omega
      · rw [if_pos bridge]
        simp only [bridge, not_false_eq_true, true_or, and_true, List.forall_mem_append,
          readInfo_safe, List.forall_mem_singleton]
        omega
    · rw [if_neg station, if_neg station]
      by_cases mode : (infoAt mem).evbmode = EVBSYS_TYPE_BRIDGE
      · rw [if_pos mode, if_pos mode]
        by_cases own : (evbtlvGetconfig port).evbmode = EVBSYS_TYPE_STATION
        · rw [if_neg (not_not.mpr own)]
          simp only [own, not_true_eq_false, and_false, or_false, List.forall_mem_append,
            readInfo_safe, List.forall_mem_cons, List.not_mem_nil, false_implies, implies_true,
            and_true]
          omega
        · rw [if_pos own]
          simp only [own, not_false_eq_true, and_true, List.forall_mem_append, readInfo_safe,
            List.forall_mem_singleton]
          omega
      · rw [if_neg mode, if_neg mode]
        simp only [and_true, List.forall_mem_append, readInfo_safe, List.forall_mem_singleton]
        omega
  · rw [if_pos announced]
    simp only [announced, ne_eq, not_false_eq_true, true_or, or_true, iff_true, readInfo_safe,
      List.forall_mem_singleton]
    omega

variable {enabled tlvStore : Bool}

theorem evb_right_iff (long : ¬ length < 4) (oui : bytesAt mem 0 3 = hton24 OUI_IEEE_8021) :
    (evbtlvRchange mem length bigendian enabled setCml tlvStore ORG_SPECIFIC_TLV port).Right
        length port ↔
      EvbFits mem length bigendian enabled tlvStore port := by
  have room : 4 ≤ length.toNat := by
    rw [UInt16.lt_iff_toNat_lt, not_lt] at long
    exact long
  have head : (readTlv length 0 3).Safe length.toNat := readTlv_safe_iff.mpr (by omega)
  unfold evbtlvRchange EvbFits
  cases tlvStore with
  | true => exact iff_of_true ⟨by simp, fun error => absurd rfl error⟩ (Or.inl rfl)
  | false =>
  rw [if_neg Bool.false_ne_true]
  cases known : port.data with
  | none =>
      rw [Option.isNone_none, if_pos rfl]
      exact iff_of_true ⟨by simp, fun _ => rfl⟩ (Or.inr (Or.inl rfl))
  | some data =>
  rw [Option.isNone_some, if_neg Bool.false_ne_true, if_pos rfl, if_neg long,
    if_neg (not_not.mpr oui)]
  dsimp only
  have right_iff (reads : List Access) (same : (evbtlvUnpack mem length bigendian enabled setCml
      port).accesses = reads) :
      EvbRx.Right length port
          ⟨if (evbtlvUnpack mem length bigendian enabled setCml port).ret then .tlvOk else .tlvErr,
            (evbtlvUnpack mem length bigendian enabled setCml port).tlvStore,
            (evbtlvUnpack mem length bigendian enabled setCml port).port,
            readTlv length 0 3 ::
              (evbtlvUnpack mem length bigendian enabled setCml port).accesses⟩ ↔
        ∀ access ∈ reads, access.Safe length.toNat := by
    constructor
    · intro right access member
      exact right.safe access (List.mem_cons_of_mem _ (same ▸ member))
    · intro safe
      refine ⟨List.forall_mem_cons.mpr ⟨head, same ▸ safe⟩, fun error => ?_⟩
      apply evbtlvUnpack_kept
      by_contra accepted
      rw [Bool.not_eq_false] at accepted
      simp [accepted] at error
  rw [right_iff _ rfl]
  cases enabled with
  | false =>
      have none : (evbtlvUnpack mem length bigendian false setCml port).accesses = [] := by
        unfold evbtlvUnpack
        rw [known]
        rfl
      rw [none]
      exact iff_of_true (by simp) (Or.inr (Or.inr (Or.inl rfl)))
  | true =>
      simp only [reduceCtorEq, Bool.false_eq_true, Bool.true_eq_false, false_or]
      cases bigendian with
      | false =>
          rw [evbtlvUnpack_copies known]
          simp [readTlv_safe_iff]
      | true =>
          rw [evbtlvUnpack_reads_iff known room]
          simp

end EvbReads

section Agreement

variable {alloc : ℕ → Bool} {mem : Memory} {length : UInt16} {wide bigendian enabled : Bool}
  {data : TagCdcpRunningData}

theorem bytesAt_head (long : ¬ length < 4) : bytesAt mem 0 length.toNat =
    mem 0 :: mem 1 :: mem 2 :: mem 3 :: bytesAt mem 4 (length.toNat - 4) := by
  rw [UInt16.lt_iff_toNat_lt, not_lt] at long
  have room : 4 ≤ length.toNat := long
  obtain ⟨rest, size⟩ := Nat.exists_eq_add_of_le' room
  rw [size, Nat.add_sub_cancel]
  simp only [bytesAt_succ, Nat.zero_add, Nat.reduceAdd]

theorem unpackPairs_agrees (memory : ∀ i, alloc i = true) : ∀ {left i rest : ℕ},
    Cdcp.unpackPairs left (bytesAt mem (8 + 3 * i) (3 * left + rest)) =
      some (unpackPairs alloc mem length left i).2.1 := by
  intro left
  induction left with
  | zero => exact fun {i rest} => rfl
  | succ left ih =>
      intro i rest
      rw [show 3 * (left + 1) + rest = 3 * left + rest + 1 + 1 + 1 by omega, bytesAt_succ,
        bytesAt_succ, bytesAt_succ, unpackPairs_succ, if_pos (memory i)]
      unfold Cdcp.unpackPairs
      rw [show 8 + 3 * i + 1 + 1 + 1 = 8 + 3 * (i + 1) by omega, ih]
      rfl

/-- Where there is memory and the structure is in the TLV, the parts that are read give what the
whole TLV gives. -/
theorem cdcpRChange_agrees (long : ¬ length < 4) (oui : bytesAt mem 0 3 = hton24 OUI_IEEE_8021)
    (memory : ∀ i, alloc i = true)
    (whole : enabled = false ∨ mem 3 ≠ LLDP_CDCP_SUBTYPE ∨ 8 ≤ length.toNat) :
    Cdcp.cdcpRChange bigendian enabled ⟨ORG_SPECIFIC_TLV, length, bytesAt mem 0 length.toNat⟩ data =
      some (cdcpRChange alloc mem length wide bigendian data enabled false
        ORG_SPECIFIC_TLV).data := by
  have info := @bytesAt_head mem length long
  have first : (bytesAt mem 0 length.toNat).take 3 = hton24 OUI_IEEE_8021 := by
    rw [info, ← oui]
    rfl
  rw [cdcpRChange_eq long oui, if_neg Bool.false_ne_true]
  unfold Cdcp.cdcpRChange
  dsimp only
  rw [if_neg (by decide), if_neg (by decide), if_pos rfl, if_neg long, if_neg (not_not.mpr first)]
  cases enabled with
  | false => rfl
  | true =>
  rw [Bool.not_true, if_neg Bool.false_ne_true, if_neg Bool.false_ne_true]
  unfold Cdcp.unpackCdcpTlv unpackCdcpTlv
  dsimp only
  rw [info]
  dsimp only
  by_cases announced : mem 3 = LLDP_CDCP_SUBTYPE
  · have whole : 8 ≤ length.toNat :=
      (whole.resolve_left Bool.true_eq_false.mp).resolve_left (not_not.mpr announced)
    have small := length.toNat_lt
    have behind : bytesAt mem 4 (length.toNat - 4) =
        mem 4 :: mem 5 :: mem 6 :: mem 7 :: bytesAt mem 8 (length.toNat - 8) := by
      rw [show length.toNat - 4 = length.toNat - 8 + 1 + 1 + 1 + 1 by omega]
      simp only [bytesAt_succ, Nat.reduceAdd]
    rw [if_neg (not_not.mpr announced), if_neg (not_not.mpr announced), behind]
    dsimp only
    rw [if_neg (chnCapAt_le bigendian mem), subCdcpTlv_of_long wide whole]
    have limit := chnCapAt_le bigendian mem
    unfold chnCapAt bitsAt at limit
    rw [if_neg limit]
    by_cases odd : (length.toNat - 8) % 3 ≠ 0
    · rw [if_pos odd, if_pos odd]
      rfl
    · rw [if_neg odd, if_neg odd, listCount_of_small (by omega)]
      have pairs := @unpackPairs_agrees alloc mem length memory ((length.toNat - 8) / 3) 0 0
      rw [show 3 * ((length.toNat - 8) / 3) + 0 = length.toNat - 8 by omega] at pairs
      have all : (unpackPairs alloc mem length ((length.toNat - 8) / 3) 0).1 = true :=
        unpackPairs_ret.mpr fun i _ => memory i
      change (Option.map _ (Option.map _ (Cdcp.unpackPairs _ (bytesAt mem (8 + 3 * 0) _)))) = _
      rw [pairs, all]
      rfl
  · rw [if_pos announced, if_pos announced]
    rfl

theorem evbtlvUnpack_agrees {setCml : Bool} {port : EvbPort} {type : UInt8}
    (long : ¬ length < 4)
    (whole : enabled = false ∨ mem 3 ≠ LLDP_EVBTLV_SUBTYPE ∨ 9 ≤ length.toNat) :
    let rx := evbtlvUnpack mem length bigendian enabled setCml port
    Evbtlv.evbtlvUnpack enabled setCml ⟨type, length, bytesAt mem 0 length.toNat⟩ port =
      some ⟨rx.ret, rx.tlvStore, rx.port⟩ := by
  unfold Evbtlv.evbtlvUnpack evbtlvUnpack
  cases known : port.data with
  | none => rfl
  | some data =>
  dsimp only
  cases enabled with
  | false => rfl
  | true =>
  have behind : (bytesAt mem 0 length.toNat).drop 3 =
      mem 3 :: bytesAt mem 4 (length.toNat - 4) := by
    rw [bytesAt_head long]
    rfl
  rw [Bool.not_true, if_neg Bool.false_ne_true, if_neg Bool.false_ne_true, behind]
  dsimp only
  by_cases announced : mem 3 = LLDP_EVBTLV_SUBTYPE
  · have whole : 9 ≤ length.toNat :=
      (whole.resolve_left Bool.true_eq_false.mp).resolve_left (not_not.mpr announced)
    have bits : EvbtlvInfo.ofBytes (bytesAt mem 4 (length.toNat - 4)) = some (infoAt mem) := by
      rw [show length.toNat - 4 = length.toNat - 9 + 1 + 1 + 1 + 1 + 1 by omega]
      simp only [bytesAt_succ]
      rfl
    rw [if_neg (not_not.mpr announced), if_neg (not_not.mpr announced), bits, Option.map_some]
    by_cases station : (infoAt mem).evbmode = EVBSYS_TYPE_STATION
    · rw [if_pos station, if_pos station]
      by_cases bridge : (evbtlvGetconfig port).evbmode ≠ EVBSYS_TYPE_BRIDGE
      · rw [if_pos bridge, if_pos bridge]
      · rw [if_neg bridge, if_neg bridge]
        cases relay : negotiateRRCTR setCml (evbtlvGetconfig port) (infoAt mem)
            ⟨port, data, 0⟩ with
        | none => rfl
        | some neg => rfl
    · rw [if_neg station, if_neg station]
      by_cases mode : (infoAt mem).evbmode = EVBSYS_TYPE_BRIDGE
      · rw [if_pos mode, if_pos mode]
        by_cases own : (evbtlvGetconfig port).evbmode ≠ EVBSYS_TYPE_STATION
        · rw [if_pos own, if_pos own]
        · rw [if_neg own, if_neg own]
      · rw [if_neg mode, if_neg mode]
  · rw [if_pos announced, if_pos announced]

theorem evbtlvRchange_agrees {setCml : Bool} {port : EvbPort} (long : ¬ length < 4)
    (oui : bytesAt mem 0 3 = hton24 OUI_IEEE_8021)
    (whole : enabled = false ∨ mem 3 ≠ LLDP_EVBTLV_SUBTYPE ∨ 9 ≤ length.toNat) :
    let rx := evbtlvRchange mem length bigendian enabled setCml false ORG_SPECIFIC_TLV port
    Evbtlv.evbtlvRchange enabled setCml false
        ⟨ORG_SPECIFIC_TLV, length, bytesAt mem 0 length.toNat⟩ port =
      some ⟨rx.ret = .tlvOk, rx.tlvStore, rx.port⟩ := by
  have first : (bytesAt mem 0 length.toNat).take 3 = hton24 OUI_IEEE_8021 := by
    rw [bytesAt_head long, ← oui]
    rfl
  unfold evbtlvRchange Evbtlv.evbtlvRchange
  dsimp only
  rw [if_neg Bool.false_ne_true, if_neg Bool.false_ne_true]
  cases known : port.data with
  | none => rfl
  | some data =>
  rw [Option.isNone_some, if_neg Bool.false_ne_true, if_pos rfl, if_pos rfl, if_neg long,
    if_neg long, if_neg (not_not.mpr first), if_neg (not_not.mpr oui)]
  dsimp only
  rw [@evbtlvUnpack_agrees mem length bigendian enabled setCml port ORG_SPECIFIC_TLV long whole]
  cases (evbtlvUnpack mem length bigendian enabled setCml port).ret with
  | false => rfl
  | true => rfl

end Agreement

section Malformed

variable (alloc : ℕ → Bool) (mem : Memory) (length : UInt16) (wide bigendian enabled setCml : Bool)
  (isStoredTlv : Bool) (data : TagCdcpRunningData) (port : EvbPort)

/-- What both modules read and keep of any TLV with the OUI. -/
theorem malformed_right_iff (long : ¬ length < 4)
    (oui : bytesAt mem 0 3 = hton24 OUI_IEEE_8021) :
    ((cdcpRChange alloc mem length wide bigendian data enabled isStoredTlv
        ORG_SPECIFIC_TLV).Right length data ↔
      CdcpFits alloc mem length bigendian enabled isStoredTlv data) ∧
    ((evbtlvRchange mem length bigendian enabled setCml isStoredTlv ORG_SPECIFIC_TLV port).Right
        length port ↔
      EvbFits mem length bigendian enabled isStoredTlv port) :=
  ⟨cdcp_right_iff long oui, evb_right_iff long oui⟩

/-- The head of a TLV, its bit-fields, and one pair from byte 8 on. -/
def pairMemory (pos : ℕ) : UInt8 :=
  [0x00, 0x80, 0xc2, 0x01, 0x01, 0x00, 0x10, 0x00, 0x05, 0x00, 0x01][pos]?.getD 0

def bridgeData : TagCdcpRunningData :=
  { Cdcp.initCdcpRunningData .b with wRemoteChnCap := 4, lstRemoteSVIDList := [⟨1, 100⟩] }

def bridgePort : EvbPort where
  ptPortAttr := .sbp true true false
  ucR := 3
  ucRTE := 15
  ucRWD := 20
  ucRKA := 20
  tNegRes := ⟨false, 3, 15, 20, 20, .init, false, 0⟩
  pIssPort := some ⟨5⟩
  data := some ⟨false, .zero⟩
  notified := []

theorem pairMemory_right :
    (cdcpRChange (fun _ => true) pairMemory 11 true false bridgeData true false
        ORG_SPECIFIC_TLV).Right 11 bridgeData ∧
      (evbtlvRchange pairMemory 11 false true true false ORG_SPECIFIC_TLV bridgePort).Right 11
        bridgePort := by
  have right := malformed_right_iff (fun _ => true) pairMemory 11 true false true true false
    bridgeData bridgePort (by decide) (by decide)
  constructor
  · refine right.1.mpr (Or.inr (Or.inr (Or.inr ⟨by decide, Or.inl ⟨by decide, ?_⟩⟩)))
    exact fun _ _ => rfl
  · exact right.2.mpr (Or.inr (Or.inr (Or.inr (Or.inl (by decide)))))

/-- With a byte too many the TLV is an error after the list of the other side is gone; one that ends
behind the subtype is read further. -/
theorem odd_tlv_takes_list :
    ¬ (cdcpRChange (fun _ => true) pairMemory 9 true false bridgeData true false
        ORG_SPECIFIC_TLV).Right 9 bridgeData ∧
      ¬ (cdcpRChange (fun _ => false) pairMemory 4 true false bridgeData true false
        ORG_SPECIFIC_TLV).Right 4 bridgeData ∧
      ¬ (evbtlvRchange pairMemory 4 false true true false ORG_SPECIFIC_TLV bridgePort).Right 4
        bridgePort := by
  refine ⟨fun right => ?_, fun right => ?_, fun right => ?_⟩
  · have kept := right.kept (by decide)
    exact absurd kept.2.2 (by decide)
  · have safe := right.safe (readTlv 4 4 4) (by decide)
    exact absurd (readTlv_safe_iff.mp safe) (by decide)
  · have safe := right.safe (readTlv 4 0 9) (by decide)
    exact absurd (readTlv_safe_iff.mp safe) (by decide)

end Malformed

end Tecs.TlvReads
