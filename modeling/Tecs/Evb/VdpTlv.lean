import Tecs.Evb.Ecp
import Tecs.Library.Bytes

set_option autoImplicit false

/-! The TLVs that stations and bridges exchange about a VSI. -/

namespace Tecs.Vdp

open Bytes

def VDP_LOOP_TIMER_INTREVAL : UInt32 := 200 * 100
def VDP_PACKET_LEN_MAX : ℕ := 1490
def VDPTLV_HEAD_LEN : ℕ := 2
def VDPTLV_VSIMGRID_LEN : ℕ := 16
def VDPTLV_VDPTLV_NOFLT_LEN : ℕ := 23
def VDPTLV_TYPE_VSI_MGRID : UInt16 := 5

/-- The TLV types that are commands. -/
inductive VdpTlvType
  | preAssociate | preAssociateWithRR | associate | deassociate
deriving Repr, DecidableEq

def VdpTlvType.value : VdpTlvType → UInt16
  | .preAssociate => 1
  | .preAssociateWithRR => 2
  | .associate => 3
  | .deassociate => 4

def VdpTlvType.ofValue (value : UInt16) : Option VdpTlvType :=
  [.preAssociate, .preAssociateWithRR, .associate, .deassociate].find? (·.value = value)

inductive VdpFltInfoFormat
  | vid | macVid | groupVid | macGroupVid
deriving Repr, DecidableEq

def VdpFltInfoFormat.value : VdpFltInfoFormat → UInt8
  | .vid => 1
  | .macVid => 2
  | .groupVid => 3
  | .macGroupVid => 4

def VdpFltInfoFormat.ofValue (value : UInt8) : Option VdpFltInfoFormat :=
  [.vid, .macVid, .groupVid, .macGroupVid].find? (·.value = value)

/-- The size of an entry in a format. -/
def VdpFltInfoFormat.size : VdpFltInfoFormat → ℕ
  | .vid => 2
  | .macVid => 8
  | .groupVid => 6
  | .macGroupVid => 12

/-- The bit-fields of an entry. -/
structure PsPcpVid where
  ps : Fin 2
  pcp : Fin 8
  vid : Fin 4096
deriving Repr, DecidableEq

structure TagVdpFltGroupMacVid where
  groupID : Vector UInt8 4
  mac : Vector UInt8 6
  tag : PsPcpVid
deriving Repr, DecidableEq

/-- The profile of a VSI at a station. -/
structure TagVsiProfile where
  vsiIDFormat : UInt8
  vsiID : Vector UInt8 16
  vsiMgrID : Vector UInt8 16
  vsitypeID : Vector UInt8 3
  vsitypeVer : UInt8
  fltFormat : UInt8
  lstFlt : List TagVdpFltGroupMacVid
deriving Repr, DecidableEq

/-- A TLV about a VSI, with the two fields of its head. -/
structure TagVdpTlvVDPAss where
  tlvType : UInt16
  tlvLen : UInt16
  reason : UInt8
  vsiTypeID : Vector UInt8 3
  vsiTypeVer : UInt8
  vsiIDFormat : UInt8
  vsiID : Vector UInt8 16
  fltFormat : UInt8
  fltInfo : List UInt8
deriving Repr, DecidableEq

section Head

def vdpTlvHeadHTON (type len : UInt16) : UInt16 := type <<< 9 ||| (len &&& 0x01ff)

def headType (tl : UInt16) : UInt16 := (tl >>> 9) &&& 0x7f

def headLen (tl : UInt16) : UInt16 := tl &&& 0x1ff

end Head

section Tag

/-- The word that both conversions of the bit-fields make. -/
def vdpfltinfoPsPcpVid (tag : PsPcpVid) : UInt16 :=
  let ps : UInt16 := .ofNat tag.ps
  let pcp : UInt16 := .ofNat tag.pcp
  let vid : UInt16 := .ofNat tag.vid
  vid ||| (pcp &&& 0x8) <<< 12 ||| (ps &&& 0x01) <<< 15

/-- The bit-fields that two bytes of memory hold. The first declared one is in the highest bits of
the word on a bigendian host, and in the lowest bits on the others. -/
def bitFields (bigendian : Bool) (first second : UInt8) : PsPcpVid :=
  if bigendian then
    let tl := (word first second).toNat
    ⟨.ofNat 2 (tl / 32768), .ofNat 8 (tl / 4096), .ofNat 4096 tl⟩
  else
    let tl := (word second first).toNat
    ⟨.ofNat 2 tl, .ofNat 8 (tl / 2), .ofNat 4096 (tl / 16)⟩

/-- `ntohs` and the copy to memory leave the high byte first on either host. -/
def vdpfltinfoPsPcpVidNtohs (bigendian : Bool) (tag : PsPcpVid) : PsPcpVid :=
  let tmp := vdpfltinfoPsPcpVid tag
  bitFields bigendian (tmp >>> 8).toUInt8 tmp.toUInt8

end Tag

section Encode

/-- The bytes of an entry in a format. -/
def fltInfo (gmv : TagVdpFltGroupMacVid) : VdpFltInfoFormat → List UInt8
  | .vid => ofWord (vdpfltinfoPsPcpVid gmv.tag)
  | .macVid => gmv.mac.toList ++ ofWord (vdpfltinfoPsPcpVid gmv.tag)
  | .groupVid => gmv.groupID.toList ++ ofWord (vdpfltinfoPsPcpVid gmv.tag)
  | .macGroupVid =>
      gmv.groupID.toList ++ gmv.mac.toList ++ ofWord (vdpfltinfoPsPcpVid gmv.tag)

/-- The bytes written to the buffer, and the length that the head of the last TLV is to hold. -/
structure OutTlv where
  bytes : List UInt8
  tlvLen : UInt16
deriving Repr, DecidableEq

def vsiProfileToMgrid (vsiPro : TagVsiProfile) : List UInt8 :=
  ofWord (vdpTlvHeadHTON VDPTLV_TYPE_VSI_MGRID (.ofNat VDPTLV_VSIMGRID_LEN)) ++
    vsiPro.vsiMgrID.toList

/-- The reason stays zero. -/
def vsiProfileToVdpasstlv (vsiPro : TagVsiProfile) (vdptlvType : VdpTlvType) : Option OutTlv :=
  let written : Option (List (List UInt8)) := vsiPro.lstFlt.mapM fun gmv =>
    (VdpFltInfoFormat.ofValue vsiPro.fltFormat).map (fltInfo gmv)
  match written with
  | none => none
  | some written =>
      let pFltInfo := written.flatten
      let nFltNum : UInt16 := .ofNat written.length
      let tlvLen : UInt16 := .ofNat (VDPTLV_VDPTLV_NOFLT_LEN + (2 + pFltInfo.length))
      some ⟨ofWord (vdpTlvHeadHTON vdptlvType.value tlvLen) ++ [0] ++ vsiPro.vsitypeID.toList ++
        [vsiPro.vsitypeVer, vsiPro.vsiIDFormat] ++ vsiPro.vsiID.toList ++ [vsiPro.fltFormat] ++
        ofWord nFltNum ++ pFltInfo, tlvLen⟩

def vsiProfileToVsitlv (vsiPro : TagVsiProfile) (vdptlvType : VdpTlvType) : Option OutTlv :=
  match vsiProfileToVdpasstlv vsiPro vdptlvType with
  | none => none
  | some vdpAss => some ⟨vsiProfileToMgrid vsiPro ++ vdpAss.bytes, vdpAss.tlvLen⟩

/-- What is sent of the buffer. -/
def OutTlv.sent (out : OutTlv) : List UInt8 :=
  out.bytes.take
    (VDPTLV_HEAD_LEN + VDPTLV_VSIMGRID_LEN + (VDPTLV_HEAD_LEN + out.tlvLen.toNat))

end Encode

section Decode

/-- The bit that tells an answer from a request. -/
def reqAck (bigendian : Bool) (reason : UInt8) : Bool :=
  if bigendian then reason &&& 0x02 ≠ 0 else reason &&& 0x40 ≠ 0

/-- What follows a head, seen as the fields of the structure. -/
def readVDPAss (tl : UInt16) : List UInt8 → Option TagVdpTlvVDPAss
  | [] => none
  | reason :: rest =>
      match readArray 3 rest, rest.drop 3 with
      | some vsiTypeID, vsiTypeVer :: vsiIDFormat :: rest =>
          match readArray 16 rest, rest.drop 16 with
          | some vsiID, fltFormat :: fltInfo =>
              some ⟨headType tl, headLen tl, reason, vsiTypeID, vsiTypeVer, vsiIDFormat, vsiID,
                fltFormat, fltInfo⟩
          | _, _ => none
      | _, _ => none

/-- The TLVs of a buffer that a side takes: the bridge takes requests and the station answers. A TLV
shorter than the structure and a TLV of another type are passed over. -/
def vdpAssTlvs (bigendian answers : Bool) : ℕ → List UInt8 → List (VdpTlvType × TagVdpTlvVDPAss)
  | fuel + 1, high :: low :: rest =>
      let tl := word high low
      let len := (headLen tl).toNat
      if rest.length < len then []
      else
        let command : Option (VdpTlvType × TagVdpTlvVDPAss) :=
          match VdpTlvType.ofValue (headType tl), readVDPAss tl (rest.take len) with
          | some type, some vdpAss =>
              if reqAck bigendian vdpAss.reason = answers then some (type, vdpAss) else none
          | _, _ => none
        command.toList ++ vdpAssTlvs bigendian answers fuel (rest.drop len)
  | _, _ => []

/-- What is taken from a received buffer: the manager and the TLVs. -/
structure VdpRx where
  mgrID : Vector UInt8 16
  commands : List (VdpTlvType × TagVdpTlvVDPAss)
deriving Repr, DecidableEq

/-- The part of both functions `ReceiveFrame` that reads the buffer. Each TLV takes two bytes or
more, so the length of the buffer bounds their number. -/
def vdpRxTlvs (bigendian answers : Bool) (buf : List UInt8) : Option VdpRx :=
  match buf with
  | high :: low :: rest =>
      match readArray 16 rest with
      | none => none
      | some mgrID =>
          if headType (word high low) ≠ VDPTLV_TYPE_VSI_MGRID then none
          else some ⟨mgrID, vdpAssTlvs bigendian answers rest.length (rest.drop 16)⟩
  | _ => none

/-- The part of `vdp_b_rx_ReceiveFrame` that reads the buffer. -/
def vdpBRxReceiveFrame (bigendian : Bool) (buf : List UInt8) : Option VdpRx :=
  vdpRxTlvs bigendian false buf

/-- An entry read from the front of a buffer in a format, where the source says what is read: it
copies no more than the buffer holds, and not over a pointer as it does for `groupVid`. -/
def readFlt (bigendian : Bool) (pFltInfo : List UInt8) :
    VdpFltInfoFormat → Option TagVdpFltGroupMacVid
  | .vid =>
      match pFltInfo with
      | first :: second :: _ =>
          some ⟨.replicate 4 0, .replicate 6 0,
            vdpfltinfoPsPcpVidNtohs bigendian (bitFields bigendian first second)⟩
      | _ => none
  | .macVid =>
      match readArray 6 pFltInfo, pFltInfo.drop 6 with
      | some mac, first :: second :: _ =>
          some ⟨.replicate 4 0, mac,
            vdpfltinfoPsPcpVidNtohs bigendian (bitFields bigendian first second)⟩
      | _, _ => none
  | .groupVid => none
  | .macGroupVid =>
      match readArray 4 pFltInfo, readArray 6 (pFltInfo.drop 4), pFltInfo.drop 10 with
      | some groupID, some mac, first :: second :: _ =>
          some ⟨groupID, mac,
            vdpfltinfoPsPcpVidNtohs bigendian (bitFields bigendian first second)⟩
      | _, _, _ => none

def vsiBOutFltAddGMVtoLstFlt (outLstFlt : List TagVdpFltGroupMacVid)
    (gmv : TagVdpFltGroupMacVid) : List TagVdpFltGroupMacVid :=
  if gmv ∈ outLstFlt then outLstFlt else Ecp.listInsert outLstFlt gmv

/-- The loop over the entries, with what is left of the count and of the length. -/
def getLstFlt (bigendian : Bool) (format : VdpFltInfoFormat) :
    ℕ → ℕ → List UInt8 → List TagVdpFltGroupMacVid → Option (List TagVdpFltGroupMacVid)
  | 0, _, _, outLstFlt => some outLstFlt
  | nFltNum + 1, tlvLen, pFltInfo, outLstFlt =>
      if tlvLen = 0 then some outLstFlt
      else
        match readFlt bigendian pFltInfo format with
        | none => none
        | some gmv =>
            let outLstFlt := vsiBOutFltAddGMVtoLstFlt outLstFlt gmv
            if tlvLen ≤ format.size then some outLstFlt
            else
              getLstFlt bigendian format nFltNum (tlvLen - format.size)
                (pFltInfo.drop format.size) outLstFlt

/-- The result and the list. There is none where the source leaves its memory. -/
def vsiBOutFltGetVdpassLstFlt (bigendian : Bool) (vdpass : TagVdpTlvVDPAss) :
    Option (Int × List TagVdpFltGroupMacVid) :=
  if vdpass.tlvLen.toNat < VDPTLV_VDPTLV_NOFLT_LEN then some (-1, [])
  else
    match vdpass.fltInfo with
    | high :: low :: pFltInfo =>
        match VdpFltInfoFormat.ofValue vdpass.fltFormat with
        | none => some (0, [])
        | some format =>
            (getLstFlt bigendian format (word high low).toNat
              (vdpass.tlvLen.toNat - VDPTLV_VDPTLV_NOFLT_LEN - 2) pFltInfo []).map (0, ·)
    | _ => none

end Decode

/-- A VLAN with a priority. -/
def examplePro : TagVsiProfile :=
  ⟨5, .replicate 16 1, .replicate 16 2, .replicate 3 3, 4, 1,
    [⟨.replicate 4 0, .replicate 6 0, ⟨0, 3, 100⟩⟩]⟩

end Tecs.Vdp
