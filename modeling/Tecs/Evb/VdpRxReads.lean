import Tecs.Evb.VdpRoundTrip
import Tecs.Library.Records

set_option autoImplicit false

/-! What the receiver of a buffer of TLVs and the reader of a TLV's filter read, byte by byte. -/

namespace Tecs.Vdp.RxReads

open Bytes Records

/-- What the addresses hold, also those behind the end of a buffer. -/
abbrev Memory := ℕ → UInt8

def headAt (mem : Memory) (pos : ℕ) : UInt16 := word (mem pos) (mem (pos + 1))

def bytesAt (mem : Memory) (pos count : ℕ) : List UInt8 := (List.range' pos count).map mem

/-- The size of the part of `tagVdpTlv_VDPAss` that lies before the filter. -/
def VDPASS_LEN : ℕ := 25

/-- The addresses of a TLV, without `last`. -/
structure TlvRange where
  first : ℕ
  last : ℕ
deriving Repr, DecidableEq

/-- What a reader does: it reads `count` bytes at `pos` for a TLV, or it takes an amount off a
length. A read of a copy is one of the bytes that were copied. -/
inductive Access
  | read (pos count : ℕ) (tlv : TlvRange)
  | sub (value amount : ℕ)
deriving Repr, DecidableEq

/-- A read stays among the first `size` bytes. -/
def Access.Within (size : ℕ) : Access → Prop
  | .read pos count _ => pos + count ≤ size
  | .sub _ _ => True

/-- A read stays in its TLV. -/
def Access.InTlv : Access → Prop
  | .read pos count tlv => tlv.first ≤ pos ∧ pos + count ≤ tlv.last
  | .sub _ _ => True

/-- A subtraction does not wrap. -/
def Access.Exact : Access → Prop
  | .read _ _ _ => True
  | .sub value amount => amount ≤ value

section Receive

/-- The address behind the TLV at an address. -/
def tlvEnd (mem : Memory) (pos : ℕ) : ℕ := pos + VDPTLV_HEAD_LEN + (headLen (headAt mem pos)).toNat

def tlvAt (mem : Memory) (pos : ℕ) : TlvRange := ⟨pos, tlvEnd mem pos⟩

/-- The TLVs that were processed, with their addresses, and what was read for it. -/
structure Rx where
  processed : List (ℕ × TagVdpTlvVDPAss)
  accesses : List Access
deriving Repr, DecidableEq

/-- The `switch` over the type of a TLV that the buffer holds whole. The bridge copies the TLV a
second time, for the VSI. -/
def rxTlv (bigendian answers : Bool) (mem : Memory) (pTmp : ℕ) : Rx :=
  let tl := headAt mem pTmp
  let size := VDPTLV_HEAD_LEN + (headLen tl).toNat
  if (VdpTlvType.ofValue (headType tl)).isNone ∨ size < VDPASS_LEN then ⟨[], []⟩
  else
    let copied : Access := .read pTmp size (tlvAt mem pTmp)
    let reason : Access := .read (pTmp + VDPTLV_HEAD_LEN) 1 (tlvAt mem pTmp)
    match readVDPAss tl (bytesAt mem (pTmp + VDPTLV_HEAD_LEN) (headLen tl).toNat) with
    | none => ⟨[], [copied]⟩
    | some vdpAss =>
        if reqAck bigendian vdpAss.reason = answers then
          ⟨[(pTmp, vdpAss)], [copied, reason, .read pTmp VDPASS_LEN (tlvAt mem pTmp)] ++
            if answers then [] else [copied]⟩
        else ⟨[], [copied, reason]⟩

/-- The loop over the TLVs. There is none when the fuel is used up. -/
def rxLoop (bigendian answers : Bool) (mem : Memory) : ℕ → ℕ → UInt16 → Option Rx
  | 0, _, _ => none
  | fuel + 1, pTmp, len =>
      let tlvLen := headLen (headAt mem pTmp)
      let head : Access := .read pTmp VDPTLV_HEAD_LEN (tlvAt mem pTmp)
      if len.toNat < VDPTLV_HEAD_LEN then some ⟨[], []⟩
      else if len.toNat < VDPTLV_HEAD_LEN + tlvLen.toNat then some ⟨[], [head]⟩
      else
        let done := rxTlv bigendian answers mem pTmp
        (rxLoop bigendian answers mem fuel (tlvEnd mem pTmp) (len - 2 - tlvLen)).map fun rest =>
          ⟨done.processed ++ rest.processed,
            head :: done.accesses ++
              .sub len.toNat VDPTLV_HEAD_LEN :: .sub (len - 2).toNat tlvLen.toNat ::
                rest.accesses⟩

/-- The length of the manager's TLV, which does not depend on its head. -/
def mgrIDLen : ℕ := VDPTLV_VSIMGRID_LEN + VDPTLV_HEAD_LEN

def mgrIDRead (mem : Memory) : Access := .read 0 mgrIDLen (tlvAt mem 0)

/-- Both functions `ReceiveFrame`. Each TLV takes two bytes or more, so the length of the buffer
bounds their number. -/
def rxReceiveFrame (bigendian answers : Bool) (mem : Memory) (len : UInt16) : Option Rx :=
  if len.toNat < mgrIDLen then some ⟨[], []⟩
  else if headType (headAt mem 0) ≠ VDPTLV_TYPE_VSI_MGRID then some ⟨[], [mgrIDRead mem]⟩
  else
    (rxLoop bigendian answers mem (len.toNat - VDPTLV_HEAD_LEN) mgrIDLen (len - 18)).map fun rest =>
      ⟨rest.processed, mgrIDRead mem :: .sub len.toNat mgrIDLen :: rest.accesses⟩

def vdpBRxReceiveFrame (bigendian : Bool) (mem : Memory) (len : UInt16) : Option Rx :=
  rxReceiveFrame bigendian false mem len

def vdpSRxReceiveFrame (bigendian : Bool) (mem : Memory) (len : UInt16) : Option Rx :=
  rxReceiveFrame bigendian true mem len

/-- The TLVs that a side is to process: those about a VSI that hold the whole structure and are
answers or requests. -/
def taken (bigendian answers : Bool) (mem : Memory) (pos : ℕ) : Bool :=
  (VdpTlvType.ofValue (headType (headAt mem pos))).isSome &&
    VDPASS_LEN ≤ VDPTLV_HEAD_LEN + (headLen (headAt mem pos)).toNat &&
    reqAck bigendian (mem (pos + VDPTLV_HEAD_LEN)) == answers

end Receive

section Filter

/-- A subtraction from the bit-field of nine bits that holds a length. -/
def subTlvLen (value amount : ℕ) : ℕ := (value + 512 - amount) % 512

/-- The loop over the entries, with what is left of the count and of the length. There is none where
the source writes over its own pointer. -/
def fltLoop (bigendian : Bool) (format : VdpFltInfoFormat) (vdpass : Memory) :
    ℕ → ℕ → ℕ → List TagVdpFltGroupMacVid → Option (List TagVdpFltGroupMacVid × List Access)
  | 0, _, _, outLstFlt => some (outLstFlt, [])
  | nFltNum + 1, tlvLen, pFltInfo, outLstFlt =>
      if tlvLen = 0 then some (outLstFlt, [])
      else
        match readFlt bigendian (bytesAt vdpass pFltInfo format.size) format with
        | none => none
        | some gmv =>
            let outLstFlt := vsiBOutFltAddGMVtoLstFlt outLstFlt gmv
            let entry : Access := .read pFltInfo format.size (tlvAt vdpass 0)
            if tlvLen ≤ format.size then some (outLstFlt, [entry])
            else
              (fltLoop bigendian format vdpass nFltNum (subTlvLen tlvLen format.size)
                (pFltInfo + format.size) outLstFlt).map fun (lst, rest) =>
                  (lst, entry :: .sub tlvLen format.size :: rest)

structure Decoded where
  result : ℤ
  lstFlt : List TagVdpFltGroupMacVid
  accesses : List Access
deriving Repr, DecidableEq

/-- The accesses that lead up to the first entry. -/
def beforeEntries (vdpass : Memory) : List Access :=
  let tlvLen := (headLen (headAt vdpass 0)).toNat
  let tlv := tlvAt vdpass 0
  [.read 0 VDPTLV_HEAD_LEN tlv, .sub tlvLen VDPTLV_VDPTLV_NOFLT_LEN, .read VDPASS_LEN 2 tlv,
    .sub (subTlvLen tlvLen VDPTLV_VDPTLV_NOFLT_LEN) 2, .read (VDPASS_LEN - 1) 1 tlv]

/-- `vsiBOutFlt_getVdpassLstFlt` on the copy of a TLV that the bridge keeps. -/
def getVdpassLstFlt (bigendian : Bool) (vdpass : Memory) : Option Decoded :=
  let tlvLen := (headLen (headAt vdpass 0)).toNat
  if tlvLen < VDPTLV_VDPTLV_NOFLT_LEN then
    some ⟨-1, [], [.read 0 VDPTLV_HEAD_LEN (tlvAt vdpass 0)]⟩
  else
    let nFltNum := (word (vdpass VDPASS_LEN) (vdpass (VDPASS_LEN + 1))).toNat
    let left := subTlvLen (subTlvLen tlvLen VDPTLV_VDPTLV_NOFLT_LEN) 2
    match VdpFltInfoFormat.ofValue (vdpass (VDPASS_LEN - 1)) with
    | none => some ⟨0, [], beforeEntries vdpass⟩
    | some format =>
        (fltLoop bigendian format vdpass nFltNum left (VDPASS_LEN + 2) []).map fun (lst, rest) =>
          ⟨0, lst, beforeEntries vdpass ++ rest⟩

/-- The TLV holds the count, and the entries that the count and the length let be read. The format
whose entries are copied over a pointer is left out where there is one to copy. -/
def WholeFilter (vdpass : Memory) : Prop :=
  VDPTLV_VDPTLV_NOFLT_LEN + 2 ≤ (headLen (headAt vdpass 0)).toNat ∧
    ∀ format, VdpFltInfoFormat.ofValue (vdpass (VDPASS_LEN - 1)) = some format →
      let count := (word (vdpass VDPASS_LEN) (vdpass (VDPASS_LEN + 1))).toNat
      let room := (headLen (headAt vdpass 0)).toNat - (VDPTLV_VDPTLV_NOFLT_LEN + 2)
      (format = .groupVid → count = 0 ∨ room = 0) ∧
        (count * format.size ≤ room ∨ format.size ∣ room)

end Filter

section Facts

theorem headLen_lt (tl : UInt16) : (headLen tl).toNat < 512 := by
  rw [toNat_headLen]
  exact Nat.mod_lt _ (by decide)

theorem tlvEnd_gt (mem : Memory) (pos : ℕ) : pos < tlvEnd mem pos := by
  simp only [tlvEnd, VDPTLV_HEAD_LEN]
  omega

@[simp] theorem length_bytesAt (mem : Memory) (pos count : ℕ) :
    (bytesAt mem pos count).length = count := by
  simp only [bytesAt, List.length_map, List.length_range']

theorem bytesAt_succ (mem : Memory) (pos count : ℕ) :
    bytesAt mem pos (count + 1) = mem pos :: bytesAt mem (pos + 1) count := by
  simp only [bytesAt, List.range'_succ, List.map_cons]

theorem bytesAt_add (mem : Memory) (pos first second : ℕ) :
    bytesAt mem pos (first + second) =
      bytesAt mem pos first ++ bytesAt mem (pos + first) second := by
  induction first generalizing pos with
  | zero => simp [bytesAt]
  | succ first ih =>
      have shifted : first + 1 + second = (first + second) + 1 := by omega
      have behind : pos + (first + 1) = pos + 1 + first := by omega
      rw [shifted, bytesAt_succ, ih, bytesAt_succ, behind, List.cons_append]

theorem bytesAt_take (mem : Memory) (pos first second : ℕ) :
    (bytesAt mem pos (first + second)).take first = bytesAt mem pos first := by
  rw [bytesAt_add]
  exact List.take_left' (length_bytesAt mem pos first)

theorem bytesAt_drop (mem : Memory) (pos first second : ℕ) :
    (bytesAt mem pos (first + second)).drop first = bytesAt mem (pos + first) second := by
  rw [bytesAt_add]
  exact List.drop_left' (length_bytesAt mem pos first)

/-- The array at an address. -/
def arrayAt (mem : Memory) (pos n : ℕ) : Vector UInt8 n :=
  ⟨(bytesAt mem pos n).toArray, by simp⟩

theorem readArray_bytesAt (mem : Memory) (pos n count : ℕ) :
    readArray n (bytesAt mem pos (n + count)) = some (arrayAt mem pos n) := by
  rw [bytesAt_add]
  exact readArray_append (arrayAt mem pos n) _

/-- The fields of a structure that lies in memory. -/
theorem readVDPAss_bytesAt (tl : UInt16) (mem : Memory) (pos count : ℕ) :
    readVDPAss tl (bytesAt mem pos (23 + count)) =
      some ⟨headType tl, headLen tl, mem pos, arrayAt mem (pos + 1) 3, mem (pos + 4),
        mem (pos + 5), arrayAt mem (pos + 6) 16, mem (pos + 22),
        bytesAt mem (pos + 23) count⟩ := by
  have typeRead := readArray_bytesAt mem (pos + 1) 3 (19 + count)
  have idRead := readArray_bytesAt mem (pos + 6) 16 (1 + count)
  have whole : 23 + count = (3 + (19 + count)) + 1 := by omega
  have afterType : 19 + count = (16 + (1 + count)) + 1 + 1 := by omega
  have afterID : 1 + count = count + 1 := by omega
  rw [whole, bytesAt_succ, readVDPAss, typeRead, bytesAt_drop, afterType, bytesAt_succ,
    bytesAt_succ]
  simp only [idRead, bytesAt_drop]
  rw [afterID, bytesAt_succ]

/-- The bit-fields at an address, in the order of the host. -/
def tagAt (bigendian : Bool) (mem : Memory) (pos : ℕ) : PsPcpVid :=
  vdpfltinfoPsPcpVidNtohs bigendian (bitFields bigendian (mem pos) (mem (pos + 1)))

/-- An entry that lies in memory. -/
def gmvAt (bigendian : Bool) (mem : Memory) (pos : ℕ) : VdpFltInfoFormat → TagVdpFltGroupMacVid
  | .vid => ⟨.replicate 4 0, .replicate 6 0, tagAt bigendian mem pos⟩
  | .macVid => ⟨.replicate 4 0, arrayAt mem pos 6, tagAt bigendian mem (pos + 6)⟩
  | .groupVid => ⟨arrayAt mem pos 4, .replicate 6 0, tagAt bigendian mem (pos + 4)⟩
  | .macGroupVid =>
      ⟨arrayAt mem pos 4, arrayAt mem (pos + 4) 6, tagAt bigendian mem (pos + 10)⟩

theorem readFlt_bytesAt (bigendian : Bool) {format : VdpFltInfoFormat} (read : format ≠ .groupVid)
    (mem : Memory) (pos count : ℕ) :
    readFlt bigendian (bytesAt mem pos (format.size + count)) format =
      some (gmvAt bigendian mem pos format) := by
  have pair : 2 + count = count + 1 + 1 := by omega
  cases format with
  | vid =>
      simp only [VdpFltInfoFormat.size, pair, bytesAt_succ, readFlt, gmvAt, tagAt]
  | macVid =>
      have size : VdpFltInfoFormat.macVid.size + count = 6 + (2 + count) := by
        simp only [VdpFltInfoFormat.size]
        omega
      simp only [size, readFlt, readArray_bytesAt, bytesAt_drop, pair, bytesAt_succ, gmvAt, tagAt]
  | groupVid => exact absurd rfl read
  | macGroupVid =>
      have size : VdpFltInfoFormat.macGroupVid.size + count = 4 + (6 + (2 + count)) := by
        simp only [VdpFltInfoFormat.size]
        omega
      have behind : 4 + (6 + (2 + count)) = 10 + (2 + count) := by omega
      have dropped : (bytesAt mem pos (4 + (6 + (2 + count)))).drop 10 =
          mem (pos + 10) :: mem (pos + 10 + 1) :: bytesAt mem (pos + 10 + 1 + 1) count := by
        rw [behind, bytesAt_drop, pair, bytesAt_succ, bytesAt_succ]
      simp only [size, readFlt, readArray_bytesAt, bytesAt_drop, dropped, gmvAt, tagAt]

end Facts

section Loop

variable {bigendian answers : Bool} {mem : Memory}

/-- An access that a reader of `size` bytes may make. -/
structure Access.Safe (size : ℕ) (access : Access) : Prop where
  within : access.Within size
  inTlv : access.InTlv
  exact : access.Exact

theorem Access.safe_sub {size value amount : ℕ} (exact : amount ≤ value) :
    (Access.sub value amount).Safe size := ⟨trivial, trivial, exact⟩

theorem Access.safe_read {size pos count : ℕ} {tlv : TlvRange} (after : tlv.first ≤ pos)
    (before : pos + count ≤ tlv.last) (within : tlv.last ≤ size) :
    (Access.read pos count tlv).Safe size := ⟨before.trans within, ⟨after, before⟩, trivial⟩

/-- The address of a TLV and its fields. -/
def AsRead (mem : Memory) (entry : ℕ × TagVdpTlvVDPAss) : Prop :=
  readVDPAss (headAt mem entry.1) (bytesAt mem (entry.1 + VDPTLV_HEAD_LEN)
    (headLen (headAt mem entry.1)).toNat) = some entry.2

/-- What is read and processed of the TLVs at some addresses. -/
structure ReadsTlvs (bigendian answers : Bool) (mem : Memory) (size : ℕ) (positions : List ℕ)
    (rx : Rx) : Prop where
  processed : rx.processed.map Prod.fst = positions.filter (taken bigendian answers mem)
  asRead : ∀ entry ∈ rx.processed, AsRead mem entry
  safe : ∀ access ∈ rx.accesses, access.Safe size

/-- A TLV that is too short or of another type is not read further than its head. -/
theorem rxTlv_reads {size pos : ℕ} (whole : tlvEnd mem pos ≤ size) :
    ReadsTlvs bigendian answers mem size [pos] (rxTlv bigendian answers mem pos) := by
  have ending : tlvEnd mem pos = pos + VDPTLV_HEAD_LEN + (headLen (headAt mem pos)).toNat := rfl
  by_cases passed : (VdpTlvType.ofValue (headType (headAt mem pos))).isNone ∨
      VDPTLV_HEAD_LEN + (headLen (headAt mem pos)).toNat < VDPASS_LEN
  · have untaken : taken bigendian answers mem pos = false := by
      rcases passed with other | short
      · simp [taken, Option.isNone_iff_eq_none.mp other]
      · simp [taken, short]
    simp only [rxTlv, if_pos passed]
    exact ⟨by simp [untaken], by simp, by simp⟩
  · obtain ⟨known, long⟩ := not_or.mp passed
    obtain ⟨count, counted⟩ : ∃ count, (headLen (headAt mem pos)).toNat = 23 + count := by
      simp only [VDPTLV_HEAD_LEN, VDPASS_LEN] at long
      exact ⟨(headLen (headAt mem pos)).toNat - 23, by omega⟩
    have read := readVDPAss_bytesAt (headAt mem pos) mem (pos + VDPTLV_HEAD_LEN) count
    rw [← counted] at read
    have copied : (Access.read pos (VDPTLV_HEAD_LEN + (headLen (headAt mem pos)).toNat)
        (tlvAt mem pos)).Safe size :=
      Access.safe_read le_rfl (by simp only [tlvAt, ending]; omega) whole
    have reason : (Access.read (pos + VDPTLV_HEAD_LEN) 1 (tlvAt mem pos)).Safe size :=
      Access.safe_read (by simp only [tlvAt]; omega) (by simp only [tlvAt, ending]; omega) whole
    have fixed : (Access.read pos VDPASS_LEN (tlvAt mem pos)).Safe size :=
      Access.safe_read le_rfl
        (by simp only [tlvAt, ending, VDPTLV_HEAD_LEN, VDPASS_LEN]; omega) whole
    have known : (VdpTlvType.ofValue (headType (headAt mem pos))).isSome = true := by
      cases found : VdpTlvType.ofValue (headType (headAt mem pos)) with
      | none => simp [found] at known
      | some type => rfl
    have long : VDPASS_LEN ≤ VDPTLV_HEAD_LEN + (headLen (headAt mem pos)).toNat := by omega
    by_cases ack : reqAck bigendian (mem (pos + VDPTLV_HEAD_LEN)) = answers
    · have taken : taken bigendian answers mem pos = true := by
        simp [taken, known, long, ack]
      simp only [rxTlv, if_neg passed, read, if_pos ack]
      refine ⟨by simp [taken], ?_, ?_⟩
      · intro entry member
        rw [List.mem_singleton.mp member]
        exact read
      · intro access member
        rcases List.mem_append.mp member with member | member
        · simp only [List.mem_cons, List.not_mem_nil, or_false] at member
          rcases member with rfl | rfl | rfl
          · exact copied
          · exact reason
          · exact fixed
        · cases answers with
          | true => simp at member
          | false =>
              rw [List.mem_singleton.mp member]
              exact copied
    · have untaken : RxReads.taken bigendian answers mem pos = false := by
        simp [RxReads.taken, ack]
      simp only [rxTlv, if_neg passed, read, if_neg ack]
      refine ⟨by simp [untaken], by simp, ?_⟩
      intro access member
      simp only [List.mem_cons, List.not_mem_nil, or_false] at member
      rcases member with rfl | rfl
      · exact copied
      · exact reason

theorem toNat_left {len tlvLen : UInt16} (whole : VDPTLV_HEAD_LEN + tlvLen.toNat ≤ len.toNat) :
    (len - 2 - tlvLen).toNat = len.toNat - VDPTLV_HEAD_LEN - tlvLen.toNat := by
  simp only [VDPTLV_HEAD_LEN] at whole ⊢
  have two : (2 : UInt16).toNat = 2 := rfl
  have head : (len - 2).toNat = len.toNat - 2 := by
    rw [UInt16.toNat_sub_of_le _ _ (UInt16.le_iff_toNat_le.mpr (by omega)), two]
  rw [UInt16.toNat_sub_of_le _ _ (UInt16.le_iff_toNat_le.mpr (by omega)), head]

theorem rxLoop_overrun {fuel pos : ℕ} {len : UInt16} (head : VDPTLV_HEAD_LEN ≤ len.toNat)
    (short : len.toNat < VDPTLV_HEAD_LEN + (headLen (headAt mem pos)).toNat) :
    rxLoop bigendian answers mem (fuel + 1) pos len =
      some ⟨[], [.read pos VDPTLV_HEAD_LEN (tlvAt mem pos)]⟩ := by
  simp only [rxLoop, if_neg (Nat.not_lt.mpr head), if_pos short]

theorem rxLoop_whole {fuel pos : ℕ} {len : UInt16} {rest : Rx}
    (whole : VDPTLV_HEAD_LEN + (headLen (headAt mem pos)).toNat ≤ len.toNat)
    (ran : rxLoop bigendian answers mem fuel (tlvEnd mem pos)
      (len - 2 - headLen (headAt mem pos)) = some rest) :
    rxLoop bigendian answers mem (fuel + 1) pos len =
      some ⟨(rxTlv bigendian answers mem pos).processed ++ rest.processed,
        .read pos VDPTLV_HEAD_LEN (tlvAt mem pos) :: (rxTlv bigendian answers mem pos).accesses ++
          .sub len.toNat VDPTLV_HEAD_LEN ::
            .sub (len - 2).toNat (headLen (headAt mem pos)).toNat :: rest.accesses⟩ := by
  have head : ¬ len.toNat < VDPTLV_HEAD_LEN := by omega
  simp only [rxLoop, if_neg head, if_neg (Nat.not_lt.mpr whole), ran, Option.map_some]

/-- The loop ends, and reads no TLV but those that the buffer holds whole and the head of the one
behind them. -/
theorem rxLoop_reads {fuel pos size : ℕ} {len : UInt16} (room : pos + len.toNat = size)
    (enough : len.toNat < 2 * fuel) :
    ∃ rx positions, rxLoop bigendian answers mem fuel pos len = some rx ∧
      Chain (tlvEnd mem) size pos positions ∧
      ReadsTlvs bigendian answers mem size positions rx := by
  induction fuel generalizing pos len with
  | zero => omega
  | succ fuel ih =>
      have ending : tlvEnd mem pos = pos + VDPTLV_HEAD_LEN + (headLen (headAt mem pos)).toNat := rfl
      by_cases empty : len.toNat < VDPTLV_HEAD_LEN
      · refine ⟨⟨[], []⟩, [], ?_, .stop (by omega), ⟨rfl, by simp, by simp⟩⟩
        simp only [rxLoop, if_pos empty]
      · by_cases short : len.toNat < VDPTLV_HEAD_LEN + (headLen (headAt mem pos)).toNat
        · refine ⟨_, [], rxLoop_overrun (Nat.not_lt.mp empty) short, .stop (by omega),
            ⟨rfl, by simp, ?_⟩⟩
          intro access member
          rw [List.mem_singleton.mp member]
          refine ⟨?_, ⟨le_rfl, ?_⟩, trivial⟩
          · show pos + VDPTLV_HEAD_LEN ≤ size
            omega
          · show pos + VDPTLV_HEAD_LEN ≤ tlvEnd mem pos
            omega
        · have whole : VDPTLV_HEAD_LEN + (headLen (headAt mem pos)).toNat ≤ len.toNat := by omega
          have left := toNat_left whole
          have head : VDPTLV_HEAD_LEN = 2 := rfl
          obtain ⟨rest, positions, ran, chain, reads⟩ :=
            @ih (tlvEnd mem pos) (len - 2 - headLen (headAt mem pos)) (by omega) (by omega)
          have done : ReadsTlvs bigendian answers mem size [pos]
              (rxTlv bigendian answers mem pos) :=
            rxTlv_reads (by omega)
          refine ⟨_, pos :: positions, rxLoop_whole whole ran, .next (by omega) chain,
            ⟨?_, ?_, ?_⟩⟩
          · rw [List.map_append, done.processed, reads.processed, ← List.filter_append,
              List.singleton_append]
          · intro entry member
            rcases List.mem_append.mp member with member | member
            · exact done.asRead entry member
            · exact reads.asRead entry member
          · have lessHead : (len - 2).toNat = len.toNat - 2 := by
              rw [UInt16.toNat_sub_of_le _ _ (UInt16.le_iff_toNat_le.mpr (by
                show 2 ≤ len.toNat
                omega))]
              rfl
            intro access member
            simp only [List.mem_cons, List.mem_append] at member
            rcases member with (rfl | member) | rfl | rfl | member
            · exact Access.safe_read le_rfl (by simp only [tlvAt]; omega)
                (by simp only [tlvAt]; omega)
            · exact done.safe access member
            · exact Access.safe_sub (by omega)
            · exact Access.safe_sub (by omega)
            · exact reads.safe access member

end Loop

section Entries

variable {bigendian : Bool} {vdpass : Memory}

theorem subTlvLen_of_le {value amount : ℕ} (small : value < 512) (exact : amount ≤ value) :
    subTlvLen value amount = value - amount := by
  rw [subTlvLen]
  omega

/-- The entries that the count and the length let be read lie in the TLV. -/
theorem fltLoop_reads {format : VdpFltInfoFormat} {nFltNum tlvLen pFltInfo : ℕ}
    {outLstFlt : List TagVdpFltGroupMacVid}
    (readable : format = .groupVid → nFltNum = 0 ∨ tlvLen = 0)
    (behind : VDPTLV_HEAD_LEN ≤ pFltInfo) (room : pFltInfo + tlvLen = tlvEnd vdpass 0)
    (whole : nFltNum * format.size ≤ tlvLen ∨ format.size ∣ tlvLen) :
    ∃ lst accesses, fltLoop bigendian format vdpass nFltNum tlvLen pFltInfo outLstFlt =
      some (lst, accesses) ∧ ∀ access ∈ accesses, access.Safe (tlvEnd vdpass 0) := by
  induction nFltNum generalizing tlvLen pFltInfo outLstFlt with
  | zero => exact ⟨outLstFlt, [], rfl, by simp⟩
  | succ nFltNum ih =>
      by_cases empty : tlvLen = 0
      · exact ⟨outLstFlt, [], by simp only [fltLoop, if_pos empty], by simp⟩
      · have other : format ≠ .groupVid := fun same =>
          (readable same).elim (Nat.succ_ne_zero nFltNum) empty
        have fits : format.size ≤ tlvLen := by
          rcases whole with counted | divides
          · have one := Nat.le_mul_of_pos_left format.size (Nat.succ_pos nFltNum)
            exact one.trans counted
          · exact Nat.le_of_dvd (Nat.pos_of_ne_zero empty) divides
        have entry : (Access.read pFltInfo format.size (tlvAt vdpass 0)).Safe (tlvEnd vdpass 0) :=
          Access.safe_read (by simp only [tlvAt]; omega) (by simp only [tlvAt]; omega) le_rfl
        have read := readFlt_bytesAt bigendian other vdpass pFltInfo 0
        rw [Nat.add_zero] at read
        by_cases last : tlvLen ≤ format.size
        · refine ⟨vsiBOutFltAddGMVtoLstFlt outLstFlt (gmvAt bigendian vdpass pFltInfo format),
            [.read pFltInfo format.size (tlvAt vdpass 0)], ?_, ?_⟩
          · simp only [fltLoop, if_neg empty, read, if_pos last]
          · intro access member
            rw [List.mem_singleton.mp member]
            exact entry
        · have small : tlvLen < 512 := by
            have bound := headLen_lt (headAt vdpass 0)
            simp only [tlvEnd] at room
            omega
          have left := subTlvLen_of_le small fits
          have rest : nFltNum * format.size ≤ tlvLen - format.size ∨
              format.size ∣ tlvLen - format.size := by
            rcases whole with counted | divides
            · left
              rw [Nat.succ_mul] at counted
              omega
            · exact .inr (Nat.dvd_sub divides (Nat.dvd_refl _))
          obtain ⟨lst, accesses, ran, safe⟩ :=
            @ih (tlvLen - format.size) (pFltInfo + format.size)
              (vsiBOutFltAddGMVtoLstFlt outLstFlt (gmvAt bigendian vdpass pFltInfo format))
              (fun same => absurd same other) (by omega) (by omega) rest
          refine ⟨lst, .read pFltInfo format.size (tlvAt vdpass 0) ::
            .sub tlvLen format.size :: accesses, ?_, ?_⟩
          · simp only [fltLoop, if_neg empty, read, if_neg last, left, ran, Option.map_some]
          · intro access member
            simp only [List.mem_cons] at member
            rcases member with rfl | rfl | member
            · exact entry
            · exact Access.safe_sub fits
            · exact safe access member

theorem toNat_entriesLen
    (counted : VDPTLV_VDPTLV_NOFLT_LEN + 2 ≤ (headLen (headAt vdpass 0)).toNat) :
    subTlvLen (subTlvLen (headLen (headAt vdpass 0)).toNat VDPTLV_VDPTLV_NOFLT_LEN) 2 =
      (headLen (headAt vdpass 0)).toNat - (VDPTLV_VDPTLV_NOFLT_LEN + 2) := by
  have small := headLen_lt (headAt vdpass 0)
  rw [subTlvLen_of_le small (by omega), subTlvLen_of_le (by omega) (by omega)]
  omega

theorem beforeEntries_safe
    (counted : VDPTLV_VDPTLV_NOFLT_LEN + 2 ≤ (headLen (headAt vdpass 0)).toNat) :
    ∀ access ∈ beforeEntries vdpass, access.Safe (tlvEnd vdpass 0) := by
  have small := headLen_lt (headAt vdpass 0)
  have ending : (tlvAt vdpass 0).last = 2 + (headLen (headAt vdpass 0)).toNat := by
    simp only [tlvAt, tlvEnd, VDPTLV_HEAD_LEN, Nat.zero_add]
  have size : VDPTLV_VDPTLV_NOFLT_LEN = 23 := rfl
  have left := subTlvLen_of_le small (by omega : VDPTLV_VDPTLV_NOFLT_LEN ≤ _)
  intro access member
  simp only [beforeEntries, List.mem_cons, List.not_mem_nil, or_false] at member
  rcases member with rfl | rfl | rfl | rfl | rfl
  · exact Access.safe_read le_rfl (by simp only [VDPTLV_HEAD_LEN]; omega) le_rfl
  · exact Access.safe_sub (by omega)
  · exact Access.safe_read (Nat.zero_le _) (by simp only [VDPASS_LEN]; omega) le_rfl
  · exact Access.safe_sub (by omega)
  · exact Access.safe_read (Nat.zero_le _) (by simp only [VDPASS_LEN]; omega) le_rfl

theorem getVdpassLstFlt_reads (bigendian : Bool) (whole : WholeFilter vdpass) :
    ∃ decoded, getVdpassLstFlt bigendian vdpass = some decoded ∧
      ∀ access ∈ decoded.accesses, access.Safe (tlvEnd vdpass 0) := by
  obtain ⟨counted, entries⟩ := whole
  have long : ¬ (headLen (headAt vdpass 0)).toNat < VDPTLV_VDPTLV_NOFLT_LEN := by omega
  have left := toNat_entriesLen counted
  have before := beforeEntries_safe counted
  cases known : VdpFltInfoFormat.ofValue (vdpass (VDPASS_LEN - 1)) with
  | none =>
      exact ⟨⟨0, [], beforeEntries vdpass⟩, by simp only [getVdpassLstFlt, if_neg long, known],
        before⟩
  | some format =>
      obtain ⟨readable, room⟩ := entries format known
      have behind : VDPASS_LEN + 2 + ((headLen (headAt vdpass 0)).toNat -
          (VDPTLV_VDPTLV_NOFLT_LEN + 2)) = tlvEnd vdpass 0 := by
        simp only [tlvEnd, VDPTLV_HEAD_LEN, VDPTLV_VDPTLV_NOFLT_LEN, VDPASS_LEN] at counted ⊢
        omega
      obtain ⟨lst, accesses, ran, safe⟩ :=
        @fltLoop_reads bigendian vdpass format _ _ (VDPASS_LEN + 2) [] readable (by decide)
          behind room
      refine ⟨⟨0, lst, beforeEntries vdpass ++ accesses⟩, ?_, ?_⟩
      · simp only [getVdpassLstFlt, if_neg long, left, known, ran, Option.map_some]
      · intro access member
        rcases List.mem_append.mp member with member | member
        · exact before access member
        · exact safe access member

end Entries

section Frame

variable {bigendian answers : Bool} {mem : Memory} {len : UInt16}

/-- A copy of the TLV at an address. What lies behind the copy is not known. -/
def Copies (mem : Memory) (pos : ℕ) (vdpass : Memory) : Prop :=
  ∀ i, pos + i < tlvEnd mem pos → vdpass i = mem (pos + i)

theorem Copies.tlvEnd {pos : ℕ} {vdpass : Memory} (copies : Copies mem pos vdpass) :
    tlvEnd vdpass 0 = RxReads.tlvEnd mem pos - pos := by
  have ending : RxReads.tlvEnd mem pos = pos + 2 + (headLen (headAt mem pos)).toNat := rfl
  have high := copies 0 (by omega)
  have low := copies 1 (by omega)
  have head : headAt vdpass 0 = headAt mem pos := by
    simp only [headAt, high, low, Nat.add_zero, Nat.zero_add]
  have copied : RxReads.tlvEnd vdpass 0 = 0 + 2 + (headLen (headAt vdpass 0)).toNat := rfl
  rw [copied, head]
  omega

/-- What the reader of a buffer does. Only the read of the manager does not depend on the length in
its head. -/
structure ReadsRight (bigendian answers : Bool) (mem : Memory) (len : UInt16) (rx : Rx) :
    Prop where
  within : ∀ access ∈ rx.accesses, access.Within len.toNat
  exact : ∀ access ∈ rx.accesses, access.Exact
  inTlv : ∀ access ∈ rx.accesses,
    (access = mgrIDRead mem → VDPTLV_VSIMGRID_LEN ≤ (headLen (headAt mem 0)).toNat) → access.InTlv
  refused : len.toNat < mgrIDLen ∨ headType (headAt mem 0) ≠ VDPTLV_TYPE_VSI_MGRID →
    rx.processed = []
  processed : mgrIDLen ≤ len.toNat → headType (headAt mem 0) = VDPTLV_TYPE_VSI_MGRID →
    (headLen (headAt mem 0)).toNat = VDPTLV_VSIMGRID_LEN →
      ∃ positions, Chain (tlvEnd mem) len.toNat (tlvEnd mem 0) positions ∧
        rx.processed.map Prod.fst = positions.filter (taken bigendian answers mem)
  ordered : (rx.processed.map Prod.fst).Pairwise (· < ·)
  asRead : ∀ entry ∈ rx.processed, AsRead mem entry
  filters : ∀ entry ∈ rx.processed, ∀ vdpass, Copies mem entry.1 vdpass → WholeFilter vdpass →
    ∃ decoded, getVdpassLstFlt bigendian vdpass = some decoded ∧
      ∀ access ∈ decoded.accesses, access.Safe (tlvEnd mem entry.1 - entry.1)

theorem filters_read {rx : Rx} :
    ∀ entry ∈ rx.processed, ∀ vdpass, Copies mem entry.1 vdpass → WholeFilter vdpass →
      ∃ decoded, getVdpassLstFlt bigendian vdpass = some decoded ∧
        ∀ access ∈ decoded.accesses, access.Safe (tlvEnd mem entry.1 - entry.1) := by
  intro entry member vdpass copies whole
  rw [← copies.tlvEnd]
  exact getVdpassLstFlt_reads bigendian whole

theorem mgrIDRead_inTlv (long : VDPTLV_VSIMGRID_LEN ≤ (headLen (headAt mem 0)).toNat) :
    (mgrIDRead mem).InTlv := by
  refine ⟨le_rfl, ?_⟩
  show 0 + mgrIDLen ≤ tlvEnd mem 0
  simp only [mgrIDLen, tlvEnd, VDPTLV_HEAD_LEN]
  omega

/-- A buffer that is refused is read no further than the manager. -/
theorem ReadsRight.ofRefused {accesses : List Access}
    (refused : len.toNat < mgrIDLen ∨ headType (headAt mem 0) ≠ VDPTLV_TYPE_VSI_MGRID)
    (manager : ∀ access ∈ accesses, access = mgrIDRead mem ∧ mgrIDLen ≤ len.toNat) :
    ReadsRight bigendian answers mem len ⟨[], accesses⟩ where
  within := by
    intro access member
    obtain ⟨rfl, long⟩ := manager access member
    show 0 + mgrIDLen ≤ len.toNat
    omega
  exact := by
    intro access member
    obtain ⟨rfl, -⟩ := manager access member
    trivial
  inTlv := by
    intro access member long
    obtain ⟨rfl, -⟩ := manager access member
    exact mgrIDRead_inTlv (long rfl)
  refused := fun _ => rfl
  processed := by
    intro long type
    rcases refused with short | other
    · omega
    · exact absurd type other
  ordered := .nil
  asRead := by simp
  filters := by simp

/-- Every buffer of every length is read to the end of its TLVs and no further. -/
theorem rxReceiveFrame_right (bigendian answers : Bool) (mem : Memory) (len : UInt16) :
    ∃ rx, rxReceiveFrame bigendian answers mem len = some rx ∧
      ReadsRight bigendian answers mem len rx := by
  by_cases short : len.toNat < mgrIDLen
  · refine ⟨⟨[], []⟩, by simp only [rxReceiveFrame, if_pos short], .ofRefused (.inl short) ?_⟩
    simp
  · by_cases other : headType (headAt mem 0) ≠ VDPTLV_TYPE_VSI_MGRID
    · refine ⟨⟨[], [mgrIDRead mem]⟩, by simp only [rxReceiveFrame, if_neg short, if_pos other],
        .ofRefused (.inr other) ?_⟩
      intro access member
      exact ⟨List.mem_singleton.mp member, Nat.not_lt.mp short⟩
    · have mgrID : mgrIDLen = 18 := rfl
      have head : VDPTLV_HEAD_LEN = 2 := rfl
      have left : (len - 18).toNat = len.toNat - 18 := by
        rw [UInt16.toNat_sub_of_le _ _ (UInt16.le_iff_toNat_le.mpr (by
          show 18 ≤ len.toNat
          omega))]
        rfl
      obtain ⟨rest, positions, ran, chain, reads⟩ :=
        @rxLoop_reads bigendian answers mem (len.toNat - VDPTLV_HEAD_LEN) mgrIDLen len.toNat
          (len - 18) (by omega) (by omega)
      have manager : ∀ access ∈ mgrIDRead mem :: .sub len.toNat mgrIDLen :: rest.accesses,
          access = mgrIDRead mem ∨ access.Safe len.toNat := by
        intro access member
        simp only [List.mem_cons] at member
        rcases member with rfl | rfl | member
        · exact .inl rfl
        · exact .inr (Access.safe_sub (Nat.not_lt.mp short))
        · exact .inr (reads.safe access member)
      refine ⟨⟨rest.processed, mgrIDRead mem :: .sub len.toNat mgrIDLen :: rest.accesses⟩,
        by simp only [rxReceiveFrame, if_neg short, if_neg other, ran, Option.map_some], ?_⟩
      exact {
        within := by
          intro access member
          rcases manager access member with rfl | safe
          · show 0 + mgrIDLen ≤ len.toNat
            omega
          · exact safe.within
        exact := by
          intro access member
          rcases manager access member with rfl | safe
          · trivial
          · exact safe.exact
        inTlv := by
          intro access member long
          rcases manager access member with rfl | safe
          · exact mgrIDRead_inTlv (long rfl)
          · exact safe.inTlv
        refused := fun refused => absurd refused (not_or.mpr ⟨short, other⟩)
        processed := by
          intro _ _ sized
          have behind : tlvEnd mem 0 = mgrIDLen := by
            simp only [tlvEnd, sized, mgrIDLen]
            omega
          rw [behind]
          exact ⟨positions, chain, reads.processed⟩
        ordered := by
          rw [reads.processed]
          exact (chain.sorted (tlvEnd_gt mem)).filter _
        asRead := reads.asRead
        filters := filters_read }

end Frame

section Malformed

/-- A TLV about a VSI holds the whole structure. -/
def wellFormed (mem : Memory) (pos : ℕ) : Bool :=
  !((VdpTlvType.ofValue (headType (headAt mem pos))).isSome &&
    VDPTLV_HEAD_LEN + (headLen (headAt mem pos)).toNat < VDPASS_LEN)

/-- What a reader does that stays in every TLV and stops at the first malformed one. -/
structure StopsAtMalformed (bigendian answers : Bool) (mem : Memory) (len : UInt16) (rx : Rx) :
    Prop where
  safe : ∀ access ∈ rx.accesses, access.Safe len.toNat
  filters : ∀ entry ∈ rx.processed, ∀ vdpass, Copies mem entry.1 vdpass →
    ∃ decoded, getVdpassLstFlt bigendian vdpass = some decoded ∧
      ∀ access ∈ decoded.accesses, access.Safe (tlvEnd mem entry.1 - entry.1)
  processed : mgrIDLen ≤ len.toNat → headType (headAt mem 0) = VDPTLV_TYPE_VSI_MGRID →
    (headLen (headAt mem 0)).toNat = VDPTLV_VSIMGRID_LEN →
      ∃ positions, Chain (tlvEnd mem) len.toNat (tlvEnd mem 0) positions ∧
        rx.processed.map Prod.fst =
          (positions.takeWhile (wellFormed mem)).filter (taken bigendian answers mem)

/-- The manager, an association without any fields and a whole one. -/
def shortThenWhole : Memory :=
  let buf : List UInt8 := [0x0a, 0x10] ++ .replicate 16 0 ++ [6, 0] ++ [6, 25]
  fun pos => buf.getD pos 0

/-- The association behind the malformed one is processed. -/
theorem malformed_passed_over : ¬ ∀ bigendian answers mem len,
    ∃ rx, rxReceiveFrame bigendian answers mem len = some rx ∧
      StopsAtMalformed bigendian answers mem len rx := by
  intro claimed
  obtain ⟨rx, ran, stops⟩ := claimed false false shortThenWhole 47
  obtain ⟨positions, chain, processed⟩ :=
    stops.processed (by decide) (by decide) (by decide)
  have known : Chain (tlvEnd shortThenWhole) 47 (tlvEnd shortThenWhole 0) [18, 20] :=
    .next (by decide) (.next (by decide) (.stop (by decide)))
  have read : (rxReceiveFrame false false shortThenWhole 47).map (·.processed.map Prod.fst) =
      some [20] := by decide
  rw [ran, Option.map_some, processed, chain.unique known] at read
  revert read
  decide

end Malformed

end Tecs.Vdp.RxReads
