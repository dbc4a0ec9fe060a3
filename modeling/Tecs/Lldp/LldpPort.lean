import Tecs.Evb.CdcpTlv

set_option autoImplicit false

/-! The data of an LLDP port, and the frames that are made of it. -/

namespace Tecs.Lldp

open Bytes
open Tecs.Cdcp (UnpackedTlv PackedTlv packTlv packTlvAfter)

section Constants

def DEFAULT_TX_HOLD : ℕ := 4
def DEFAULT_TX_INTERVAL : ℕ := 30
def FAST_TX_INTERVAL : ℕ := 1
def TX_FAST_INIT : ℕ := 4
def REINIT_DELAY : ℕ := 2
def TX_CREDIT_MAX : ℕ := 5
def DORMANT_DELAY : ℕ := 15

def ETH_P_LLDP : UInt16 := 0x88cc
def ETH_MAX_DATA_LEN : ℕ := 1500
def ETH_MIN_DATA_LEN : ℕ := 46
def ETH_HDR_LEN : ℕ := 14
def ETH_MIN_PKT_LEN : ℕ := ETH_MIN_DATA_LEN + ETH_HDR_LEN

def END_OF_LLDPDU_TLV : UInt8 := 0
def CHASSIS_ID_TLV : UInt8 := 1
def PORT_ID_TLV : UInt8 := 2
def TIME_TO_LIVE_TLV : UInt8 := 3

def CHASSIS_ID_MAC_ADDRESS : UInt8 := 4
def PORT_ID_INTERFACE_NAME : UInt8 := 5

def IFNAMSIZ : ℕ := 31

end Constants

section Data

inductive PortAdminStatus
  | disabled | enabledTxOnly | enabledRxOnly | enabledRxTx
deriving Repr, DecidableEq

def PortAdminStatus.transmits (adminStatus : PortAdminStatus) : Bool :=
  adminStatus = .enabledRxTx || adminStatus = .enabledTxOnly

def PortAdminStatus.receives (adminStatus : PortAdminStatus) : Bool :=
  adminStatus = .enabledRxTx || adminStatus = .enabledRxOnly

inductive AgentMode
  | nearestBridge | nearestNonTPMRBridge | nearestCustomerBridge
deriving Repr, DecidableEq

/-- `multi_cast_mac1`, `multi_cast_mac2` and `multi_cast_mac3`. -/
def AgentMode.dmac : AgentMode → List UInt8
  | .nearestBridge => [0x01, 0x80, 0xc2, 0x00, 0x00, 0x0e]
  | .nearestNonTPMRBridge => [0x01, 0x80, 0xc2, 0x00, 0x00, 0x03]
  | .nearestCustomerBridge => [0x01, 0x80, 0xc2, 0x00, 0x00, 0x00]

inductive TxTimerState
  | txTimerBegin | txTimerInitialize | txTimerIdle | txTimerExpires | txTick | signalTx |
    txFastStart
deriving Repr, DecidableEq

inductive TxState
  | txLldpInitialize | txIdle | txShutdownFrame | txInfoFrame
deriving Repr, DecidableEq

inductive RxState
  | lldpWaitPortOperational | deleteAgedInfo | rxLldpInitialize | rxWaitForFrame | rxFrame
  | deleteInfo | updateInfo
deriving Repr, DecidableEq

structure PortTimers where
  dormantDelay : ℕ
  state : TxTimerState
  reinitDelay : ℕ
  msgTxHold : ℕ
  msgTxInterval : ℕ
  msgFastTx : ℕ
  txFastInit : ℕ
  txTTR : ℕ
  txShutdownWhile : ℕ
  txCredit : ℕ
  txMaxCredit : ℕ
  txTick : Bool
  tooManyNghbrsTimer : ℕ
  rxTTL : ℕ
  lastrxTTL : ℕ
deriving Repr, DecidableEq

/-- The frame that was made last is `frameout`, without it where making one has failed. -/
structure PortTx where
  frameout : Option (List UInt8)
  state : TxState
  localChange : Bool
  txTTL : ℕ
  txNow : Bool
  txFast : ℕ
deriving Repr, DecidableEq

structure PortStats where
  statsFramesOutTotal : UInt32
  statsFramesOutErrorsTotal : UInt32
  statsFramesDiscardedTotal : UInt32
  statsFramesInErrorsTotal : UInt32
  statsFramesInTotal : UInt32
  statsTLVsUnrecognizedTotal : UInt32
deriving Repr, DecidableEq

/-- `sizein` is the length of `framein`. -/
structure PortRx where
  framein : Option (List UInt8)
  state : RxState
  badFrame : Bool
  rcvFrame : Bool
  rxInfoAge : Bool
  remoteChange : Bool
  tooManyNghbrs : Bool
  newNeighbor : Bool
deriving Repr, DecidableEq

structure Msap where
  msap1 : Option (List UInt8)
  msap2 : Option (List UInt8)
deriving Repr, DecidableEq

/-- The TLVs of a port that every frame starts with. -/
structure MandData where
  chassis : Option UnpackedTlv
  portid : Option UnpackedTlv
  ttl : Option UnpackedTlv
deriving Repr, DecidableEq

/-- A port, with what the modules have of it: the mandatory one its own TLVs, the others the TLVs
that they were shown since they last had to delete theirs. -/
structure LldpPort where
  name : List UInt8
  smac : Vector UInt8 6
  agentMode : AgentMode
  portEnabled : Bool
  prevPortEnabled : Bool
  adminStatus : PortAdminStatus
  remoteMacAddr : List UInt8
  rx : PortRx
  tx : PortTx
  stats : PortStats
  timers : PortTimers
  rxChanges : Bool
  lldpdu : UInt16
  msap : Msap
  mand : Option MandData
  shown : List UnpackedTlv

/-- What a call meets: the TLVs of the modules after the mandatory one, each block as long as its
size says, whether the driver takes a frame, what those modules make of a TLV of a frame (what came
before it in the frame, the TLV, and whether it is stored already), and the memory behind the
frame. -/
structure Surroundings where
  gettlv : List (Option PackedTlv)
  sized : ∀ ptlv, some ptlv ∈ gettlv → ptlv.tlv.length = ptlv.size.toNat
  sent : Bool
  rchange : List UnpackedTlv → UnpackedTlv → Bool → Option Bool
  beyond : ℕ → UInt8

/-- What a call hands to the driver; without a frame, there was none to send. -/
inductive Transmission
  | info (frame : Option (List UInt8))
  | shutdown (frame : List UInt8)
deriving Repr, DecidableEq

end Data

section Mandatory

/-- The string at the front of the buffer of a name. -/
def ifname (name : List UInt8) : List UInt8 := (name.take IFNAMSIZ).takeWhile (· ≠ 0)

def isValidMac (mac : Vector UInt8 6) : Bool := mac.toList.any (· ≠ 0)

def mandBldChassisTlv (port : LldpPort) : Option UnpackedTlv :=
  if isValidMac port.smac then
    some ⟨CHASSIS_ID_TLV, 7, CHASSIS_ID_MAC_ADDRESS :: port.smac.toList⟩
  else none

def mandBldPortidTlv (port : LldpPort) : UnpackedTlv :=
  ⟨PORT_ID_TLV, .ofNat ((ifname port.name).length + 1), PORT_ID_INTERFACE_NAME :: ifname port.name⟩

def mandBldTtlTlv (port : LldpPort) : UnpackedTlv :=
  ⟨TIME_TO_LIVE_TLV, 2, ofWord (.ofNat
    (if port.tx.txTTL ≠ 0 then port.tx.txTTL else DEFAULT_TX_HOLD * DEFAULT_TX_INTERVAL))⟩

/-- A chassis TLV that cannot be built ends it, without an error. -/
def mandBldTlv (port : LldpPort) : MandData :=
  match mandBldChassisTlv port with
  | none => ⟨none, none, none⟩
  | some chassis => ⟨some chassis, some (mandBldPortidTlv port), some (mandBldTtlTlv port)⟩

def mandIfup (port : LldpPort) : LldpPort :=
  match port.mand with
  | some _ => port
  | none => { port with mand := some (mandBldTlv port) }

def mandIfdown (port : LldpPort) : LldpPort := { port with mand := none }

def tlvSize : Option UnpackedTlv → ℕ
  | none => 0
  | some tlv => 2 + tlv.length.toNat

/-- `PACK_TLV_AFTER`: no TLV is fine. -/
def packAfter (size : ℕ) (tlv : Option UnpackedTlv) (ptlv : PackedTlv) : Option PackedTlv :=
  match tlv with
  | none => some ptlv
  | some tlv => packTlvAfter tlv ptlv size

def mandGettlv (port : LldpPort) : Option PackedTlv :=
  match port.mand with
  | none => none
  | some md =>
      let size := tlvSize md.chassis + tlvSize md.portid + tlvSize md.ttl
      if size = 0 then none
      else
        ((packAfter size md.chassis ⟨0, []⟩).bind (packAfter size md.portid)).bind
          (packAfter size md.ttl)

end Mandatory

section Frames

def packEndTlv : Option PackedTlv := packTlv ⟨END_OF_LLDPDU_TLV, 0, []⟩

def ethHeader (port : LldpPort) : List UInt8 :=
  port.agentMode.dmac ++ port.smac.toList ++ ofWord ETH_P_LLDP

/-- The TLVs of one module behind what is in the frame. -/
def appendTlv (frame : List UInt8) : Option PackedTlv → Option (List UInt8)
  | none => some frame
  | some ptlv =>
      if ptlv.size.toNat + frame.length > ETH_MAX_DATA_LEN then none else some (frame ++ ptlv.tlv)

/-- The End TLV and the padding to the least size. -/
def finishFrame (frame : List UInt8) : Option (List UInt8) :=
  match packEndTlv with
  | none => none
  | some ptlv => (appendTlv frame (some ptlv)).map fun frame =>
      if frame.length - ETH_HDR_LEN < ETH_MIN_DATA_LEN then
        frame ++ List.replicate (ETH_MIN_PKT_LEN - frame.length) 0
      else frame

def mibConstrInfoLLDPDU (env : Surroundings) (port : LldpPort) : Option (List UInt8) :=
  ((mandGettlv port :: env.gettlv).foldlM appendTlv (ethHeader port)).bind finishFrame

/-- The last two bytes of the mandatory TLVs are the time to live. -/
def clearTtl (ptlv : PackedTlv) : PackedTlv :=
  { ptlv with tlv := ptlv.tlv.take (ptlv.tlv.length - 2) ++ [0, 0] }

def mibConstrShutdownLLDPDU (port : LldpPort) : Option (List UInt8) :=
  (appendTlv (ethHeader port) ((mandGettlv port).map clearTtl)).bind finishFrame

end Frames

end Tecs.Lldp
