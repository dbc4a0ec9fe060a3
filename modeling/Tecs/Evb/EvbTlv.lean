import Tecs.Evb.CdcpTlv

set_option autoImplicit false

/-! The EVB TLV of a port, and what a bridge and a station make of one that comes in. -/

namespace Tecs.Evbtlv

open Tecs.Cdcp (UnpackedTlv PackedTlv packTlvAfter unpackTlv hton24 OUI_IEEE_8021
  ORG_SPECIFIC_TLV)

def LLDP_EVBTLV_SUBTYPE : UInt8 := 0xD
def EVBSYS_TYPE_BRIDGE : Fin 4 := 1
def EVBSYS_TYPE_STATION : Fin 4 := 2

def EVBTLV_CHG_RRCTR : UInt32 := (0x01 : UInt32) <<< 2
def EVBTLV_CHG_RRSTAT : UInt32 := (0x01 : UInt32) <<< 5
def EVBTLV_CHG_R : UInt32 := (0x01 : UInt32) <<< 6
def EVBTLV_CHG_RTE : UInt32 := (0x01 : UInt32) <<< 7
def EVBTLV_CHG_RWD : UInt32 := (0x01 : UInt32) <<< 10
def EVBTLV_CHG_RKA : UInt32 := (0x01 : UInt32) <<< 12
def EVBTLV_CHG_VIDCONTROL : UInt32 := (0x01 : UInt32) <<< 13
def EVBTLV_ISSUPPORT : UInt32 := (0x01 : UInt32) <<< 14
def EVBTLV_CHG_ALL : UInt32 := 0xffffffff

inductive EvbTlvStatus
  | init | succ
deriving Repr, DecidableEq

section Info

/-- The bit-fields behind the subtype, the reserved ones left out. -/
structure EvbtlvInfo where
  rrctr : Bool
  rrcap : Bool
  bgid : Bool
  rrstat : Fin 4
  rrreq : Bool
  sgid : Bool
  rte : Fin 32
  r : Fin 8
  rwd : Fin 32
  rol0 : Bool
  evbmode : Fin 4
  rka : Fin 32
  rol1 : Bool
deriving Repr, DecidableEq

def EvbtlvInfo.zero : EvbtlvInfo :=
  ⟨false, false, false, 0, false, false, 0, 0, 0, false, 0, 0, false⟩

/-- The five bytes. A host of the other byte order has the fields of each byte the other way
round, and so the same bytes. -/
def EvbtlvInfo.bytes (info : EvbtlvInfo) : List UInt8 :=
  [UInt8.ofNat (info.rrctr.toNat + 2 * info.rrcap.toNat + 4 * info.bgid.toNat),
    UInt8.ofNat (info.rrstat + 4 * info.rrreq.toNat + 8 * info.sgid.toNat),
    UInt8.ofNat (info.rte + 32 * info.r),
    UInt8.ofNat (info.rwd + 32 * info.rol0.toNat + 64 * info.evbmode),
    UInt8.ofNat (info.rka + 32 * info.rol1.toNat)]

/-- No result where the fields reach beyond what came in. -/
def EvbtlvInfo.ofBytes : List UInt8 → Option EvbtlvInfo
  | b₀ :: b₁ :: b₂ :: b₃ :: b₄ :: _ =>
      some
        { rrctr := b₀.toNat.testBit 0
          rrcap := b₀.toNat.testBit 1
          bgid := b₀.toNat.testBit 2
          rrstat := Fin.ofNat 4 b₁.toNat
          rrreq := b₁.toNat.testBit 2
          sgid := b₁.toNat.testBit 3
          rte := Fin.ofNat 32 b₂.toNat
          r := Fin.ofNat 8 (b₂.toNat / 32)
          rwd := Fin.ofNat 32 b₃.toNat
          rol0 := b₃.toNat.testBit 5
          evbmode := Fin.ofNat 4 (b₃.toNat / 64)
          rka := Fin.ofNat 32 b₄.toNat
          rol1 := b₄.toNat.testBit 5 }
  | _ => none

end Info

section Ports

structure EvbTlvNegResult where
  ucVIDorGID : Bool
  ucEcpMaxRetries : UInt8
  ucRTE : UInt8
  ucRWD : UInt8
  ucRKA : UInt8
  ucStatus : EvbTlvStatus
  ucRRCTR : Bool
  ucRRSTAT : UInt8
deriving Repr, DecidableEq

/-- What only a bridge has, or only a station. -/
inductive EvbPortAttr
  | sbp (bBGID bRRCAP bRRCTR : Bool)
  | urp (bSGrpID bRRReq : Bool)
deriving Repr, DecidableEq

/-- The relay bit that a bridge advertises. -/
def EvbPortAttr.bRRCTR : EvbPortAttr → Bool
  | .sbp _ _ bRRCTR => bRRCTR
  | .urp _ _ => false

def EvbPortAttr.setRRCTR (bRRCTR : Bool) : EvbPortAttr → EvbPortAttr
  | .sbp bBGID bRRCAP _ => .sbp bBGID bRRCAP bRRCTR
  | .urp bSGrpID bRRReq => .urp bSGrpID bRRReq

structure EvbtlvData where
  vidcontrol : Bool
  t_evbtlv_info : EvbtlvInfo
deriving Repr, DecidableEq

/-- The mode of the hardware port, 0 for a reflective relay. -/
structure EvbIssPort where
  dwCml : UInt32
deriving Repr, DecidableEq

/-- The port, its data in the module, and the flags that were reported, oldest first. -/
structure EvbPort where
  ptPortAttr : EvbPortAttr
  ucR : UInt8
  ucRTE : UInt8
  ucRWD : UInt8
  ucRKA : UInt8
  tNegRes : EvbTlvNegResult
  pIssPort : Option EvbIssPort
  data : Option EvbtlvData
  notified : List UInt32
deriving Repr, DecidableEq

def evbtlvChgNotify (flag : UInt32) (port : EvbPort) : EvbPort :=
  { port with notified := port.notified ++ [flag] }

/-- The information that goes out, each number as far as its field takes it. -/
def evbtlvGetconfig (port : EvbPort) : EvbtlvInfo :=
  let info := { EvbtlvInfo.zero with
    r := Fin.ofNat 8 port.ucR.toNat
    rte := Fin.ofNat 32 port.ucRTE.toNat
    rka := Fin.ofNat 32 port.ucRKA.toNat
    rwd := Fin.ofNat 32 port.ucRWD.toNat }
  match port.ptPortAttr with
  | .sbp bBGID bRRCAP bRRCTR =>
      { info with bgid := bBGID, rrcap := bRRCAP, rrctr := bRRCTR, evbmode := EVBSYS_TYPE_BRIDGE }
  | .urp bSGrpID bRRReq =>
      { info with sgid := bSGrpID, rrreq := bRRReq, evbmode := EVBSYS_TYPE_STATION }

/-- Of a port that is in the module. -/
def evbtlvGettlv (port : EvbPort) : Option PackedTlv :=
  match port.data with
  | none => none
  | some _ =>
      packTlvAfter ⟨ORG_SPECIFIC_TLV, 9,
        hton24 OUI_IEEE_8021 ++ LLDP_EVBTLV_SUBTYPE :: (evbtlvGetconfig port).bytes⟩ ⟨0, []⟩ 11

end Ports

section Negotiation

/-- The port, its data and the flags, while a TLV is worked on. -/
structure Negotiation where
  port : EvbPort
  data : EvbtlvData
  flag : UInt32
deriving Repr, DecidableEq

def Negotiation.info (neg : Negotiation) : EvbtlvInfo := neg.data.t_evbtlv_info

/-- The module keeps this value, and the port that one. -/
def Negotiation.take (neg : Negotiation) (info : EvbtlvInfo) (tNegRes : EvbTlvNegResult) :
    Negotiation :=
  { neg with
    port := { neg.port with tNegRes }
    data := { neg.data with t_evbtlv_info := info } }

/-- The larger of two values is taken over, and reported, if the module has another one. -/
def negotiate {n : ℕ} (field : EvbtlvInfo → Fin n)
    (take : Fin n → Bool → Negotiation → Negotiation) (chg : UInt32) (own other : EvbtlvInfo)
    (neg : Negotiation) : Negotiation :=
  if field other > field own then
    if field neg.info ≠ field other then
      { take (field other) true neg with flag := neg.flag ||| chg }
    else neg
  else
    if field neg.info ≠ field own then
      { take (field own) false neg with flag := neg.flag ||| chg }
    else neg

/-- Whatever the values are, the negotiation is a success from here on. -/
def negotiateR (own other : EvbtlvInfo) (neg : Negotiation) : Negotiation :=
  let neg := negotiate (·.r) (fun r _ neg => neg.take { neg.info with r }
    { neg.port.tNegRes with ucEcpMaxRetries := UInt8.ofNat r }) EVBTLV_CHG_R own other neg
  { neg.take neg.info { neg.port.tNegRes with ucStatus := .succ } with
    flag := neg.flag ||| EVBTLV_ISSUPPORT }

def negotiateRTE (own other : EvbtlvInfo) (neg : Negotiation) : Negotiation :=
  negotiate (·.rte) (fun rte _ neg => neg.take { neg.info with rte }
    { neg.port.tNegRes with ucRTE := UInt8.ofNat rte }) EVBTLV_CHG_RTE own other neg

/-- A station notes whose value it is. -/
def negotiateRWD (own other : EvbtlvInfo) (neg : Negotiation) : Negotiation :=
  negotiate (·.rwd) (fun rwd remote neg => neg.take
      (match neg.port.ptPortAttr with
        | .sbp _ _ _ => { neg.info with rwd }
        | .urp _ _ => { neg.info with rwd, rol0 := remote })
      { neg.port.tNegRes with ucRWD := UInt8.ofNat rwd }) EVBTLV_CHG_RWD own other neg

def negotiateRKA (own other : EvbtlvInfo) (neg : Negotiation) : Negotiation :=
  negotiate (·.rka) (fun rka remote neg => neg.take { neg.info with rka, rol1 := remote }
    { neg.port.tNegRes with ucRKA := UInt8.ofNat rka }) EVBTLV_CHG_RKA own other neg

def negotiateParameters (own other : EvbtlvInfo) (neg : Negotiation) : Negotiation :=
  negotiateRKA own other (negotiateRWD own other (negotiateRTE own other
    (negotiateR own other neg)))

/-- The mode of the hardware changes exactly if setting it succeeds. -/
def evbSetCml (success : Bool) (dwCml : UInt32) (port : EvbPort) : Bool × EvbPort :=
  if success then (true, { port with pIssPort := port.pIssPort.map fun _ => ⟨dwCml⟩ })
  else (false, port)

/-- The relay is switched on where the station asks for it and the bridge is capable of it, and off
elsewhere; no result without a hardware port to switch. -/
def negotiateRRCTR (setCml : Bool) (own other : EvbtlvInfo) (neg : Negotiation) :
    Option Negotiation :=
  let rrctr := other.rrreq && own.rrcap
  if neg.info.rrctr ≠ rrctr then
    match neg.port.pIssPort with
    | none => none
    | some _ =>
        let (done, port) := evbSetCml setCml (if rrctr then 0 else 5) neg.port
        if done then
          some
            { port := { port with
                ptPortAttr := port.ptPortAttr.setRRCTR rrctr
                tNegRes := { port.tNegRes with
                  ucRRCTR := rrctr, ucStatus := if rrctr then .succ else .init } }
              data := { neg.data with t_evbtlv_info := { neg.info with rrctr } }
              flag := neg.flag ||| EVBTLV_CHG_RRCTR ||| EVBTLV_ISSUPPORT }
        else some neg
  else some neg

def negotiateVIDorGID (own other : EvbtlvInfo) (neg : Negotiation) : Negotiation :=
  let vidcontrol := other.sgid && own.bgid
  if neg.data.vidcontrol ≠ vidcontrol then
    { port := { neg.port with tNegRes := { neg.port.tNegRes with ucVIDorGID := vidcontrol } }
      data := { neg.data with vidcontrol }
      flag := neg.flag ||| EVBTLV_CHG_VIDCONTROL }
  else neg

def negotiateRRSTAT (other : EvbtlvInfo) (neg : Negotiation) : Negotiation :=
  if neg.info.rrstat ≠ (if other.rrctr then 1 else 0) then
    { neg.take { neg.info with rrstat := if other.rrctr then 1 else 0 }
        { neg.port.tNegRes with
          ucRRSTAT := if other.rrctr then 1 else 0
          ucStatus := if other.rrctr then .succ else .init } with
      flag := neg.flag ||| EVBTLV_CHG_RRSTAT }
  else neg

end Negotiation

section Unpack

structure Unpacked where
  ret : Bool
  tlvStore : Bool
  port : EvbPort
deriving Repr, DecidableEq

def Negotiation.done (neg : Negotiation) : Unpacked :=
  let port := { neg.port with data := some neg.data }
  ⟨true, true, if neg.flag ≠ 0 then evbtlvChgNotify neg.flag port else port⟩

/-- The OUI is that of the TLV. -/
def evbtlvUnpack (enabled setCml : Bool) (tlv : UnpackedTlv) (port : EvbPort) : Option Unpacked :=
  match port.data with
  | none => some ⟨false, false, port⟩
  | some data =>
      let own := evbtlvGetconfig port
      if !enabled then some ⟨false, false, port⟩
      else
        match tlv.info.drop 3 with
        | [] => none
        | subtype :: bits =>
            if subtype ≠ LLDP_EVBTLV_SUBTYPE then some ⟨true, false, port⟩
            else
              (EvbtlvInfo.ofBytes bits).map fun other =>
                if other.evbmode = EVBSYS_TYPE_STATION then
                  if own.evbmode ≠ EVBSYS_TYPE_BRIDGE then ⟨false, false, port⟩
                  else
                    match negotiateRRCTR setCml own other ⟨port, data, 0⟩ with
                    | none => ⟨false, false, port⟩
                    | some neg => (negotiateParameters own other
                        (negotiateVIDorGID own other neg)).done
                else if other.evbmode = EVBSYS_TYPE_BRIDGE then
                  if own.evbmode ≠ EVBSYS_TYPE_STATION then ⟨false, false, port⟩
                  else (negotiateParameters own other
                    (negotiateRRSTAT other ⟨port, data, 0⟩)).done
                else ⟨false, false, port⟩

/-- A TLV of a frame, of whatever type, with what the modules before made of it. -/
def evbtlvRchange (enabled setCml tlvStore : Bool) (tlv : UnpackedTlv) (port : EvbPort) :
    Option Unpacked :=
  if tlvStore then some ⟨true, tlvStore, port⟩
  else
    match port.data with
    | none => some ⟨false, tlvStore, port⟩
    | some _ =>
        if tlv.type = ORG_SPECIFIC_TLV then
          if tlv.length < 4 then some ⟨false, tlvStore, port⟩
          else if tlv.info.take 3 ≠ hton24 OUI_IEEE_8021 then some ⟨false, tlvStore, port⟩
          else evbtlvUnpack enabled setCml tlv port
        else some ⟨true, tlvStore, port⟩

end Unpack

section Resets

def evbtlvInit (_data : EvbtlvData) : EvbtlvData := ⟨false, .zero⟩

/-- What is configured takes the place of what was negotiated; a port that had negotiated nothing
reports nothing, and leaves the hardware as it is. -/
def evbtlvSetneg (setCml : Bool) (port : EvbPort) : EvbPort :=
  let tNegRes := { port.tNegRes with
    ucEcpMaxRetries := port.ucR
    ucRTE := port.ucRTE
    ucRWD := port.ucRWD
    ucRKA := port.ucRKA }
  match port.ptPortAttr with
  | .sbp _ _ _ =>
      let port := { port with
        tNegRes := { tNegRes with ucRRCTR := false, ucVIDorGID := false } }
      if port.tNegRes.ucStatus = .init then port
      else
        let port := evbtlvChgNotify EVBTLV_CHG_ALL { port with
          tNegRes := { port.tNegRes with ucStatus := .init } }
        match port.pIssPort with
        | none => port
        | some _ => (evbSetCml setCml 5 port).2
  | .urp _ _ =>
      let port := { port with tNegRes }
      if port.tNegRes.ucStatus = .init then port
      else
        evbtlvChgNotify EVBTLV_CHG_ALL { port with
          tNegRes := { port.tNegRes with ucStatus := .init } }

def evbtlvIfup (port : EvbPort) : EvbPort := port

def evbtlvIfdown (setCml : Bool) (port : EvbPort) : EvbPort :=
  match port.data with
  | none => port
  | some data => evbtlvSetneg setCml { port with data := some (evbtlvInit data) }

def evbtlvIfadd (setCml : Bool) (port : EvbPort) : EvbPort :=
  match port.data with
  | some _ => port
  | none => evbtlvSetneg setCml { port with data := some ⟨false, .zero⟩ }

def evbtlvIfdel (setCml : Bool) (port : EvbPort) : EvbPort :=
  match port.data with
  | none => port
  | some _ => evbtlvSetneg setCml { port with data := none }

def evbtlvMibDeleteObject (setCml : Bool) (port : EvbPort) : EvbPort :=
  match port.data with
  | none => port
  | some data => evbtlvSetneg setCml { port with data := some (evbtlvInit data) }

/-- A new port, with what is configured for it. -/
def createEvbPort (ptPortAttr : EvbPortAttr) (ucR ucRTE ucRWD ucRKA : UInt8)
    (pIssPort : Option EvbIssPort) : EvbPort where
  ptPortAttr := ptPortAttr
  ucR := ucR
  ucRTE := ucRTE
  ucRWD := ucRWD
  ucRKA := ucRKA
  tNegRes := ⟨false, 0, 0, 0, 0, .init, false, 0⟩
  pIssPort := pIssPort
  data := none
  notified := []

end Resets

end Tecs.Evbtlv
