import Tecs.Evb.VdpRxReads

set_option autoImplicit false

/-! What the reader of a memory takes is what the reader of a list of bytes takes from the same
bytes. -/

namespace Tecs.Vdp.RxReads

open Bytes

variable {bigendian answers : Bool} {mem : Memory}

theorem length_of_readArray {n : ℕ} {buf : List UInt8} {array : Vector UInt8 n}
    (read : readArray n buf = some array) : n ≤ buf.length := by
  by_contra short
  rw [readArray, dif_neg short] at read
  cases read

theorem length_of_readVDPAss {tl : UInt16} {buf : List UInt8} {vdpAss : TagVdpTlvVDPAss}
    (read : readVDPAss tl buf = some vdpAss) : 23 ≤ buf.length := by
  rw [readVDPAss.eq_def] at read
  split at read
  · cases read
  · rename_i reason rest
    split at read
    · rename_i vsiTypeID vsiTypeVer vsiIDFormat afterType typeRead typeBehind
      split at read
      · rename_i vsiID fltFormat fltInfo idRead idBehind
        have typeLong := congrArg List.length typeBehind
        have idLong := congrArg List.length idBehind
        have idFits := length_of_readArray idRead
        simp only [List.length_drop, List.length_cons] at typeLong idLong ⊢
        omega
      · cases read
    · cases read

/-- The TLV that is taken at the front of a buffer, as the list of bytes gives it. -/
def command (bigendian answers : Bool) (tl : UInt16) (buf : List UInt8) :
    Option (VdpTlvType × TagVdpTlvVDPAss) :=
  match VdpTlvType.ofValue (headType tl), readVDPAss tl buf with
  | some type, some vdpAss =>
      if reqAck bigendian vdpAss.reason = answers then some (type, vdpAss) else none
  | _, _ => none

theorem rxTlv_agrees (pos : ℕ) :
    (rxTlv bigendian answers mem pos).processed.map Prod.snd =
      (command bigendian answers (headAt mem pos) (bytesAt mem (pos + VDPTLV_HEAD_LEN)
        (headLen (headAt mem pos)).toNat)).toList.map Prod.snd := by
  cases known : VdpTlvType.ofValue (headType (headAt mem pos)) with
  | none => simp [rxTlv, command, known]
  | some type =>
      cases read : readVDPAss (headAt mem pos) (bytesAt mem (pos + VDPTLV_HEAD_LEN)
          (headLen (headAt mem pos)).toNat) with
      | none =>
          by_cases short : VDPTLV_HEAD_LEN + (headLen (headAt mem pos)).toNat < VDPASS_LEN
          · simp [rxTlv, command, known, read, short]
          · simp [rxTlv, command, known, read, short]
      | some vdpAss =>
          have long : ¬ VDPTLV_HEAD_LEN + (headLen (headAt mem pos)).toNat < VDPASS_LEN := by
            have fixed := length_of_readVDPAss read
            rw [length_bytesAt] at fixed
            simp only [VDPTLV_HEAD_LEN, VDPASS_LEN]
            omega
          by_cases ack : reqAck bigendian vdpAss.reason = answers
          · simp [rxTlv, command, known, read, long, ack]
          · simp [rxTlv, command, known, read, long, ack]

theorem vdpAssTlvs_bytesAt (fuel pos count : ℕ) :
    vdpAssTlvs bigendian answers (fuel + 1) (bytesAt mem pos (count + 2)) =
      if count < (headLen (headAt mem pos)).toNat then []
      else
        (command bigendian answers (headAt mem pos) (bytesAt mem (pos + 2)
          (headLen (headAt mem pos)).toNat)).toList ++
          vdpAssTlvs bigendian answers fuel
            (bytesAt mem (tlvEnd mem pos) (count - (headLen (headAt mem pos)).toNat)) := by
  have rest : pos + 1 + 1 = pos + 2 := rfl
  rw [bytesAt_succ, bytesAt_succ, rest, vdpAssTlvs, length_bytesAt]
  by_cases short : count < (headLen (headAt mem pos)).toNat
  · rw [if_pos short]
    exact if_pos short
  · obtain ⟨behind, whole⟩ : ∃ behind, count = (headLen (headAt mem pos)).toNat + behind :=
      ⟨count - (headLen (headAt mem pos)).toNat, by omega⟩
    rw [if_neg short]
    refine (if_neg short).trans ?_
    have tl : word (mem pos) (mem (pos + 1)) = headAt mem pos := rfl
    have left : count - (headLen (headAt mem pos)).toNat = behind := by omega
    rw [tl, left, whole, bytesAt_take, bytesAt_drop]
    rfl

theorem rxLoop_agrees {fuel pos : ℕ} {len : UInt16} {rx : Rx}
    (ran : rxLoop bigendian answers mem fuel pos len = some rx) :
    rx.processed.map Prod.snd =
      (vdpAssTlvs bigendian answers fuel (bytesAt mem pos len.toNat)).map Prod.snd := by
  induction fuel generalizing pos len rx with
  | zero => cases ran
  | succ fuel ih =>
      have head : VDPTLV_HEAD_LEN = 2 := rfl
      by_cases empty : len.toNat < VDPTLV_HEAD_LEN
      · rw [rxLoop, if_pos empty, Option.some.injEq] at ran
        subst ran
        have few : len.toNat = 0 ∨ len.toNat = 1 := by omega
        rcases few with none | one
        · rw [none]
          rfl
        · rw [one]
          rfl
      · obtain ⟨count, counted⟩ : ∃ count, len.toNat = count + 2 := ⟨len.toNat - 2, by omega⟩
        rw [counted, vdpAssTlvs_bytesAt]
        by_cases short : len.toNat < VDPTLV_HEAD_LEN + (headLen (headAt mem pos)).toNat
        · rw [rxLoop_overrun (by omega) short, Option.some.injEq] at ran
          subst ran
          rw [if_pos (by omega)]
          rfl
        · have whole : VDPTLV_HEAD_LEN + (headLen (headAt mem pos)).toNat ≤ len.toNat := by omega
          cases behind : rxLoop bigendian answers mem fuel (tlvEnd mem pos)
              (len - 2 - headLen (headAt mem pos)) with
          | none => simp [rxLoop, empty, short, behind] at ran
          | some rest =>
              rw [rxLoop_whole whole behind, Option.some.injEq] at ran
              subst ran
              have left : count - (headLen (headAt mem pos)).toNat =
                  (len - 2 - headLen (headAt mem pos)).toNat := by
                rw [toNat_left whole]
                omega
              rw [if_neg (by omega), List.map_append, List.map_append, rxTlv_agrees, ih behind,
                left]
              rfl

/-- The commands that the reader of a list of bytes takes are those that are processed. -/
theorem rxReceiveFrame_agrees {len : UInt16} {rx : Rx}
    (ran : rxReceiveFrame bigendian answers mem len = some rx) :
    rx.processed.map Prod.snd =
      (((vdpRxTlvs bigendian answers (bytesAt mem 0 len.toNat)).map (·.commands)).getD []).map
        Prod.snd := by
  have mgrID : mgrIDLen = 18 := rfl
  by_cases short : len.toNat < mgrIDLen
  · rw [rxReceiveFrame, if_pos short, Option.some.injEq] at ran
    subst ran
    have refused : vdpRxTlvs bigendian answers (bytesAt mem 0 len.toNat) = none := by
      rw [vdpRxTlvs.eq_def]
      split
      · rename_i high low rest found
        have size := congrArg List.length found
        simp only [length_bytesAt, List.length_cons] at size
        have few : ¬ 16 ≤ rest.length := by omega
        rw [readArray, dif_neg few]
      · rfl
    rw [refused]
    rfl
  · obtain ⟨count, counted⟩ : ∃ count, len.toNat = 16 + count + 1 + 1 :=
      ⟨len.toNat - 18, by omega⟩
    have read := readArray_bytesAt mem 2 16 count
    have tl : word (mem 0) (mem 1) = headAt mem 0 := rfl
    have taken : vdpRxTlvs bigendian answers (bytesAt mem 0 len.toNat) =
        if headType (headAt mem 0) ≠ VDPTLV_TYPE_VSI_MGRID then none
        else some ⟨arrayAt mem 2 16,
          vdpAssTlvs bigendian answers (16 + count) (bytesAt mem 18 count)⟩ := by
      rw [counted, bytesAt_succ, bytesAt_succ, vdpRxTlvs, read, length_bytesAt, bytesAt_drop]
      rfl
    rw [taken]
    by_cases other : headType (headAt mem 0) ≠ VDPTLV_TYPE_VSI_MGRID
    · rw [rxReceiveFrame, if_neg short, if_pos other, Option.some.injEq] at ran
      subst ran
      rw [if_pos other]
      rfl
    · rw [if_neg other]
      cases behind : rxLoop bigendian answers mem (len.toNat - VDPTLV_HEAD_LEN) mgrIDLen
          (len - 18) with
      | none => simp [rxReceiveFrame, short, other, behind] at ran
      | some rest =>
          rw [rxReceiveFrame, if_neg short, if_neg other, behind, Option.map_some,
            Option.some.injEq] at ran
          subst ran
          have left : (len - 18).toNat = count := by
            rw [UInt16.toNat_sub_of_le _ _ (UInt16.le_iff_toNat_le.mpr (by
              show 18 ≤ len.toNat
              omega)), counted]
            show 16 + count + 1 + 1 - 18 = count
            omega
          have fuel : len.toNat - VDPTLV_HEAD_LEN = 16 + count := by
            simp only [VDPTLV_HEAD_LEN]
            omega
          rw [fuel] at behind
          have agrees := rxLoop_agrees behind
          rw [left] at agrees
          exact agrees

/-- A list of bytes too short for an entry gives none. -/
theorem length_of_readFlt {buf : List UInt8} {format : VdpFltInfoFormat}
    {gmv : TagVdpFltGroupMacVid} (read : readFlt bigendian buf format = some gmv) :
    format.size ≤ buf.length := by
  cases format with
  | vid =>
      simp only [readFlt] at read
      split at read
      · simp [VdpFltInfoFormat.size]
      · cases read
  | macVid =>
      simp only [readFlt] at read
      split at read
      · rename_i found
        have behind := congrArg List.length found
        simp only [List.length_drop, List.length_cons] at behind
        simp only [VdpFltInfoFormat.size]
        omega
      · cases read
  | groupVid => cases read
  | macGroupVid =>
      simp only [readFlt] at read
      split at read
      · rename_i found
        have behind := congrArg List.length found
        simp only [List.length_drop, List.length_cons] at behind
        simp only [VdpFltInfoFormat.size]
        omega
      · cases read

theorem fltLoop_agrees {format : VdpFltInfoFormat} {vdpass : Memory}
    {nFltNum tlvLen pFltInfo : ℕ} {outLstFlt lst : List TagVdpFltGroupMacVid}
    (small : tlvLen < 512)
    (ran : getLstFlt bigendian format nFltNum tlvLen (bytesAt vdpass pFltInfo tlvLen) outLstFlt =
      some lst) :
    ∃ accesses, fltLoop bigendian format vdpass nFltNum tlvLen pFltInfo outLstFlt =
      some (lst, accesses) := by
  induction nFltNum generalizing tlvLen pFltInfo outLstFlt with
  | zero =>
      rw [getLstFlt, Option.some.injEq] at ran
      exact ⟨[], by rw [fltLoop, ran]⟩
  | succ nFltNum ih =>
      by_cases empty : tlvLen = 0
      · rw [getLstFlt, if_pos empty, Option.some.injEq] at ran
        exact ⟨[], by rw [fltLoop, if_pos empty, ran]⟩
      · rw [getLstFlt, if_neg empty] at ran
        cases read : readFlt bigendian (bytesAt vdpass pFltInfo tlvLen) format with
        | none => simp [read] at ran
        | some gmv =>
            have fits := length_of_readFlt read
            rw [length_bytesAt] at fits
            have readable : format ≠ .groupVid := by
              rintro rfl
              cases read
            obtain ⟨count, rfl⟩ : ∃ count, tlvLen = format.size + count :=
              ⟨tlvLen - format.size, by omega⟩
            have entry := readFlt_bytesAt bigendian readable vdpass pFltInfo 0
            have whole := readFlt_bytesAt bigendian readable vdpass pFltInfo count
            have left := subTlvLen_of_le small fits
            have rest : format.size + count - format.size = count := by omega
            rw [Nat.add_zero] at entry
            simp only [whole, rest, bytesAt_drop] at ran
            by_cases last : format.size + count ≤ format.size
            · rw [if_pos last, Option.some.injEq] at ran
              exact ⟨[.read pFltInfo format.size (tlvAt vdpass 0)],
                by simp only [fltLoop, if_neg empty, entry, if_pos last, ran]⟩
            · rw [if_neg last] at ran
              obtain ⟨accesses, looped⟩ := ih (by omega) ran
              exact ⟨.read pFltInfo format.size (tlvAt vdpass 0) ::
                  .sub (format.size + count) format.size :: accesses,
                by simp only [fltLoop, if_neg empty, entry, if_neg last, left, rest, looped,
                  Option.map_some]⟩

/-- Where the reader of a list of bytes has a result, the reader of the memory has the same. -/
theorem getVdpassLstFlt_agrees {vdpass : Memory} {vdpAss : TagVdpTlvVDPAss} {result : ℤ}
    {lstFlt : List TagVdpFltGroupMacVid} (asRead : AsRead vdpass (0, vdpAss))
    (ran : vsiBOutFltGetVdpassLstFlt bigendian vdpAss = some (result, lstFlt)) :
    ∃ accesses, getVdpassLstFlt bigendian vdpass = some ⟨result, lstFlt, accesses⟩ := by
  have small := headLen_lt (headAt vdpass 0)
  have size : VDPTLV_VDPTLV_NOFLT_LEN = 23 := rfl
  simp only [AsRead] at asRead
  have long := length_of_readVDPAss asRead
  rw [length_bytesAt] at long
  obtain ⟨count, counted⟩ : ∃ count, (headLen (headAt vdpass 0)).toNat = 23 + count :=
    ⟨(headLen (headAt vdpass 0)).toNat - 23, by omega⟩
  rw [counted, readVDPAss_bytesAt, Option.some.injEq] at asRead
  subst asRead
  have enough : ¬ (headLen (headAt vdpass 0)).toNat < VDPTLV_VDPTLV_NOFLT_LEN := by omega
  rw [vsiBOutFltGetVdpassLstFlt, if_neg enough] at ran
  by_cases holds : 2 ≤ count
  · obtain ⟨room, entries⟩ : ∃ room, count = room + 1 + 1 := ⟨count - 2, by omega⟩
    have left : subTlvLen (subTlvLen (headLen (headAt vdpass 0)).toNat VDPTLV_VDPTLV_NOFLT_LEN) 2 =
        room := by
      rw [toNat_entriesLen (by omega)]
      omega
    have length : (headLen (headAt vdpass 0)).toNat - VDPTLV_VDPTLV_NOFLT_LEN - 2 = room := by omega
    simp only [entries, bytesAt_succ, length, VDPTLV_HEAD_LEN, Nat.zero_add] at ran
    cases known : VdpFltInfoFormat.ofValue (vdpass 24) with
    | none =>
        simp only [known, Option.some.injEq, Prod.mk.injEq] at ran
        obtain ⟨rfl, rfl⟩ := ran
        exact ⟨beforeEntries vdpass,
          by simp only [getVdpassLstFlt, if_neg enough, VDPASS_LEN, known]⟩
    | some format =>
        simp only [known] at ran
        obtain ⟨lst, looped, same⟩ := Option.map_eq_some_iff.mp ran
        obtain ⟨rfl, rfl⟩ := Prod.mk.injEq .. ▸ same
        obtain ⟨accesses, ran⟩ := fltLoop_agrees (by omega) looped
        exact ⟨beforeEntries vdpass ++ accesses, by
          simp only [getVdpassLstFlt, if_neg enough, left, VDPASS_LEN, known, ran, Option.map_some]⟩
  · have few : count = 0 ∨ count = 1 := by omega
    rcases few with rfl | rfl
    · cases ran
    · cases ran

end Tecs.Vdp.RxReads
