import Tecs.Library.Bytes

set_option autoImplicit false

/-! The data of a CDCP port, and the TLV that is made of it. -/

namespace Tecs.Cdcp

open Bytes

def LLDP_CDCP_SUBTYPE : UInt8 := 0x1
def OUI_IEEE_8021 : UInt32 := 0x0080c2
def ORG_SPECIFIC_TLV : UInt8 := 127

inductive EMCdcpRole
  | b | s
deriving Repr, DecidableEq

inductive CdcpSm
  | notRunning | running
deriving Repr, DecidableEq

@[ext] structure TagCdcpScidSvidPair where
  wScid : UInt16
  wSvid : UInt16
deriving Repr, DecidableEq

structure TagVlanInfo where
  wVlanID : UInt16
  ucIsUse : Bool
deriving Repr, DecidableEq

structure TagCdcpVlanPool where
  tVlanPoolHead : List TagVlanInfo
  wMaxVlanID : UInt16
  wMinVlanID : UInt16
deriving Repr, DecidableEq

structure UnpackedTlv where
  type : UInt8
  length : UInt16
  info : List UInt8
deriving Repr, DecidableEq

structure PackedTlv where
  size : UInt16
  tlv : List UInt8
deriving Repr, DecidableEq

structure TagCdcpRunningData where
  wAdminChnCap : UInt16
  wOperChnCap : UInt16
  ucAdminRole : EMCdcpRole
  ucOperRole : EMCdcpRole
  wRemoteChnCap : UInt16
  ucRemoteRole : EMCdcpRole
  ucSchState : CdcpSm
  bSCompEnable : Bool
  bRemoteSCompEnable : Bool
  tLocalSVIDPool : TagCdcpVlanPool
  tLastSVIDPool : TagCdcpVlanPool
  lstAdminSVIDWants : List TagCdcpScidSvidPair
  lstOperSVIDList : List TagCdcpScidSvidPair
  lstRemoteSVIDList : List TagCdcpScidSvidPair
  lstLastRemoteSVIDList : List TagCdcpScidSvidPair
  lstLastSVIDWants : List TagCdcpScidSvidPair
  pRxTlv : Option UnpackedTlv
deriving Repr, DecidableEq

/-- The data of a port of a system that is a bridge, or a station. -/
def initCdcpRunningData (role : EMCdcpRole) : TagCdcpRunningData where
  wAdminChnCap := 0
  wOperChnCap := 0
  ucAdminRole := role
  ucOperRole := role
  wRemoteChnCap := 0
  ucRemoteRole := role
  ucSchState := .notRunning
  bSCompEnable := false
  bRemoteSCompEnable := false
  tLocalSVIDPool := ⟨[], 0, 0⟩
  tLastSVIDPool := ⟨[], 0, 0⟩
  lstAdminSVIDWants := []
  lstOperSVIDList := []
  lstRemoteSVIDList := []
  lstLastRemoteSVIDList := []
  lstLastSVIDWants := []
  pRxTlv := none

section Lldp

def tlvOk (tlv : UnpackedTlv) : Bool := !(tlv.length = 0 && tlv.type ≠ 0)

def packTlv (tlv : UnpackedTlv) : Option PackedTlv :=
  if !tlvOk tlv then none
  else
    let tl := tlv.type.toUInt16 <<< 9 ||| (tlv.length &&& 0x01ff)
    some ⟨tlv.length + 2, ofWord tl ++ tlv.info.take tlv.length.toNat⟩

/-- The packed block holds what was written to it so far. -/
def packTlvAfter (tlv : UnpackedTlv) (mtlv : PackedTlv) (length : ℕ) : Option PackedTlv :=
  match packTlv tlv with
  | none => none
  | some ptlv =>
      if ptlv.size.toNat + mtlv.size.toNat > length then none
      else some ⟨mtlv.size + ptlv.size, mtlv.tlv ++ ptlv.tlv⟩

/-- No result where the length in the head is more than the block holds. -/
def unpackTlv (tlv : PackedTlv) : Option UnpackedTlv :=
  match tlv.tlv with
  | high :: low :: rest =>
      let tl := word high low
      let length := tl &&& 0x01ff
      if rest.length < length.toNat then none
      else some ⟨(tl >>> 9).toUInt8, length, rest.take length.toNat⟩
  | _ => none

end Lldp

section BitFields

/-- The bit-fields behind the subtype. -/
structure CdcpBits where
  bitRole : Fin 2
  bitSComp : Fin 2
  bitChnCap : Fin 4096
deriving Repr, DecidableEq

/-- The first field takes the lowest bits, or the highest ones. -/
def CdcpBits.value (bigendian : Bool) (bits : CdcpBits) : ℕ :=
  if bigendian then bits.bitRole * 2 ^ 31 + bits.bitSComp * 2 ^ 27 + bits.bitChnCap
  else bits.bitRole + bits.bitSComp * 2 ^ 4 + bits.bitChnCap * 2 ^ 20

def CdcpBits.ofValue (bigendian : Bool) (value : ℕ) : CdcpBits :=
  if bigendian then
    ⟨Fin.ofNat 2 (value / 2 ^ 31), Fin.ofNat 2 (value / 2 ^ 27), Fin.ofNat 4096 value⟩
  else ⟨Fin.ofNat 2 value, Fin.ofNat 2 (value / 2 ^ 4), Fin.ofNat 4096 (value / 2 ^ 20)⟩

/-- The bytes of a word of 32 bits in the order of the host. -/
def hostBytes (bigendian : Bool) (value : ℕ) : List UInt8 :=
  let bytes := [UInt8.ofNat value, UInt8.ofNat (value / 2 ^ 8), UInt8.ofNat (value / 2 ^ 16),
    UInt8.ofNat (value / 2 ^ 24)]
  if bigendian then bytes.reverse else bytes

def hostWord (bigendian : Bool) (b₀ b₁ b₂ b₃ : UInt8) : ℕ :=
  if bigendian then b₀.toNat * 2 ^ 24 + b₁.toNat * 2 ^ 16 + b₂.toNat * 2 ^ 8 + b₃.toNat
  else b₀.toNat + b₁.toNat * 2 ^ 8 + b₂.toNat * 2 ^ 16 + b₃.toNat * 2 ^ 24

end BitFields

section Build

def hton24 (value : UInt32) : List UInt8 :=
  [(value >>> 16).toUInt8, (value >>> 8).toUInt8, value.toUInt8]

/-- The three bytes of a pair. -/
def packScidSvid (pair : TagCdcpScidSvidPair) : List UInt8 :=
  [(pair.wScid &&& 0x00FF).toUInt8,
    (pair.wSvid &&& 0x00F).toUInt8 ||| ((pair.wScid >>> 8) &&& 0x00F).toUInt8,
    (pair.wSvid >>> 4).toUInt8 &&& 0x00FF]

variable (bigendian : Bool)

def buildCdcpTlv (data : TagCdcpRunningData) : Option PackedTlv :=
  if data.wAdminChnCap = 0 ∨ data.wOperChnCap = 0 ∨ data.ucAdminRole ≠ data.ucOperRole ∨
      (data.ucOperRole ≠ .b ∧ data.ucOperRole ≠ .s) then none
  else if data.wOperChnCap > 0x0FFF then none
  else
    let listCount := data.lstOperSVIDList.length
    if listCount > data.wOperChnCap.toNat then none
    else if listCount = 0 then none
    else
      let bits : CdcpBits :=
        { bitRole := if data.ucOperRole = .s then 1 else 0
          bitSComp := if data.bSCompEnable then 1 else 0
          bitChnCap := Fin.ofNat 4096 data.wOperChnCap.toNat }
      let tlvLen := 8 + listCount * 3
      let unpackedTlv : UnpackedTlv :=
        { type := ORG_SPECIFIC_TLV
          length := UInt16.ofNat tlvLen
          info := hton24 OUI_IEEE_8021 ++ LLDP_CDCP_SUBTYPE ::
            (hostBytes bigendian (bits.value bigendian) ++
              data.lstOperSVIDList.flatMap packScidSvid) }
      if 4 > unpackedTlv.length.toNat then none
      else packTlvAfter unpackedTlv ⟨0, []⟩ (2 + unpackedTlv.length.toNat)

end Build

section Unpack

def unpackScidSvid (b₀ b₁ b₂ : UInt8) : TagCdcpScidSvidPair where
  wScid := ((b₁.toUInt16 >>> 4) &&& 0x000F) <<< 8 ||| b₀.toUInt16
  wSvid := (b₂.toUInt16 <<< 4) &&& 0xFFF0 ||| (b₁.toUInt16 &&& 0x000F)

/-- No result where the count goes past the end of the TLV. -/
def unpackPairs : ℕ → List UInt8 → Option (List TagCdcpScidSvidPair)
  | 0, _ => some []
  | listCount + 1, b₀ :: b₁ :: b₂ :: rest =>
      (unpackPairs listCount rest).map (unpackScidSvid b₀ b₁ b₂ :: ·)
  | _ + 1, _ => none

/-- What is returned, whether the TLV is stored, and what is left of the data. -/
structure Unpacked where
  ret : Bool
  isStoredTlv : Bool
  data : TagCdcpRunningData

variable (bigendian : Bool)

/-- No result where it reads past the end of the TLV. -/
def unpackCdcpTlv (tlv : UnpackedTlv) (data : TagCdcpRunningData) : Option Unpacked :=
  match tlv.info with
  | _ :: _ :: _ :: ucSubType :: rest =>
      if ucSubType ≠ LLDP_CDCP_SUBTYPE then some ⟨true, false, data⟩
      else
        match rest with
        | b₀ :: b₁ :: b₂ :: b₃ :: scidSvid =>
            let bits := CdcpBits.ofValue bigendian (hostWord bigendian b₀ b₁ b₂ b₃)
            let data := { data with
              pRxTlv := some tlv
              ucRemoteRole := if bits.bitRole = 1 then .s else .b
              bRemoteSCompEnable := bits.bitSComp = 1
              wRemoteChnCap := UInt16.ofNat bits.bitChnCap }
            if data.wRemoteChnCap > 0x0FFF then some ⟨false, false, data⟩
            else
              let data := { data with lstRemoteSVIDList := [] }
              if (tlv.length.toNat - 8) % 3 ≠ 0 then some ⟨false, false, data⟩
              else
                (unpackPairs ((tlv.length.toNat - 8) / 3) scidSvid).map fun lstRemoteSVIDList =>
                  ⟨true, true, { data with lstRemoteSVIDList }⟩
        | _ => none
  | _ => none

end Unpack

end Tecs.Cdcp
