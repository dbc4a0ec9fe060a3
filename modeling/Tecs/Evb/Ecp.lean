import Mathlib

set_option autoImplicit false

/-! The transmit and receive sides of an ECP port. -/

namespace Tecs.Ecp

inductive TxState
  | idle | initTransmit | transmitEcpdu | waitForReq | countErr
deriving Repr, DecidableEq

inductive TxEvent
  | begin | reqRecv | retransmit | notRetransmit | ackRecvOk | uct | portUp | portDown
deriving Repr, DecidableEq

inductive RxState
  | idle | recevieWait | receiveFirst | receiveEcpdu | newEcpdu | sendAck
deriving Repr, DecidableEq

inductive RxEvent
  | begin | ecpduRecv | seqEquLast | seqNotequLast | uct | portUp | portDown
deriving Repr, DecidableEq

/-- Words are held as the values they have in host order. -/
structure Ecpdu where
  verOpSub : UInt16
  sequence : UInt16
  ulpdu : List UInt8
deriving Repr, DecidableEq

/-- An entry of a list of the port. The tag tells entries apart in statements; no function reads
it. -/
structure TagEcpULPDU where
  tag : ℕ
  sequence : UInt16
  ackTimer : UInt32
  retries : UInt16
  requestReceived : Bool
  ackReceived : Bool
  txErrors : UInt32
  txState : TxState
  ecpduReceived : Bool
  lastSeq : UInt16
  seqECPDU : UInt16
  rxState : RxState
  maxTries : UInt32
  portEnabled : Bool
  ecpdu : Ecpdu
deriving Repr, DecidableEq

/-- What follows the Ethernet addresses. -/
structure Frame where
  proto : UInt16
  data : List UInt8
deriving Repr, DecidableEq

/-- What the attributes of the port and the negotiation say at the time of a call. -/
structure PortAttr where
  evbTlvStatusSucc : Bool
  ecpAckTimerInit : UInt32
  ecpMaxTries : UInt32
deriving Repr, DecidableEq

def ECP_PROTOCOL_TYPE : UInt16 := 0x88DD
def ECP_VERSION : UInt16 := 1
def ECP_MIN_DATA_LEN : ℕ := 50
def EVB_ECP_ECPDU_HEAD_LEN : ℕ := 4
def ECP_REQUEST : UInt16 := 0
def ECP_ACK : UInt16 := 1
def ECP_SUBTYPE_VDP : UInt16 := 1
def ECP_SUBTYPE_PECSP : UInt16 := 2
def ECP_LOOP_TIMER_INTERVAL : UInt32 := 160 * 100

def ecpduHeadVerOpSub (ver ope sub : UInt16) : UInt16 := ver <<< 12 ||| ope <<< 10 ||| sub

/-- The four bytes of a head. -/
def headBytes (ecpdu : Ecpdu) : List UInt8 :=
  [(ecpdu.verOpSub >>> 8).toUInt8, ecpdu.verOpSub.toUInt8,
    (ecpdu.sequence >>> 8).toUInt8, ecpdu.sequence.toUInt8]

def word (high low : UInt8) : UInt16 := high.toUInt16 <<< 8 ||| low.toUInt16

/-- The fields that `ecpduHead_NTOH` takes from the first word of a head. -/
structure Head where
  version : UInt16
  operType : UInt16
  subType : UInt16
deriving Repr, DecidableEq

def ecpduHeadNTOH (verOpSub : UInt16) : Head :=
  ⟨(verOpSub >>> 12) &&& 0xf, (verOpSub >>> 10) &&& 0x3, verOpSub &&& 0x3ff⟩

def initEcpULDPU (attr : PortAttr) (tag : ℕ) (sequence : UInt16) (ecpdu : Ecpdu) : TagEcpULPDU where
  tag := tag
  sequence := sequence
  ackTimer := 0
  retries := 0
  requestReceived := false
  ackReceived := false
  txErrors := 0
  txState := .idle
  ecpduReceived := false
  lastSeq := 0
  seqECPDU := 0
  rxState := .idle
  maxTries := attr.ecpMaxTries
  portEnabled := false
  ecpdu := ecpdu

/-- Short frames are filled up with zeros. -/
def frame (ecpdu : Ecpdu) (ulpdu : List UInt8) : Frame :=
  ⟨ECP_PROTOCOL_TYPE, headBytes ecpdu ++ ulpdu ++
    List.replicate (ECP_MIN_DATA_LEN - (EVB_ECP_ECPDU_HEAD_LEN + ulpdu.length)) 0⟩

section Tx

/-- What an action leaves of the entry, the frame it sends and the event it raises. -/
structure TxDone where
  ecp : TagEcpULPDU
  sent : Option Frame
  event : Option TxEvent

def txErr (ecp : TagEcpULPDU) : TxDone := ⟨ecp, none, none⟩

def portEn (ecp : TagEcpULPDU) : TxDone := ⟨{ ecp with portEnabled := true }, none, none⟩

def initTr (ecp : TagEcpULPDU) : TxDone :=
  ⟨{ ecp with
      txState := .initTransmit
      retries := 0
      requestReceived := false
      ackReceived := false
      txErrors := 0 }, none, none⟩

/-- A frame that the driver refuses counts as lost. -/
def trEcpdu (attr : PortAttr) (ecp : TagEcpULPDU) : TxDone :=
  ⟨{ ecp with
      txState := .transmitEcpdu
      requestReceived := true
      ackTimer := attr.ecpAckTimerInit
      retries := ecp.retries + 1 }, some (frame ecp.ecpdu ecp.ecpdu.ulpdu), none⟩

def cntErr (ecp : TagEcpULPDU) : TxDone :=
  ⟨{ ecp with txState := .countErr, txErrors := ecp.txErrors + 1 }, none, some .uct⟩

def wtForReq (ecp : TagEcpULPDU) : TxDone :=
  ⟨{ ecp with
      txState := .waitForReq
      retries := 0
      requestReceived := false
      ackReceived := false }, none, none⟩

def ecpTxActions (attr : PortAttr) : TxEvent → TxState → TagEcpULPDU → TxDone
  | .begin, .idle => initTr
  | .reqRecv, .initTransmit => trEcpdu attr
  | .reqRecv, .waitForReq => trEcpdu attr
  | .retransmit, .transmitEcpdu => trEcpdu attr
  | .notRetransmit, .transmitEcpdu => cntErr
  | .ackRecvOk, .transmitEcpdu => wtForReq
  | .uct, .countErr => wtForReq
  | .portUp, .idle => portEn
  | .portDown, _ => initTr
  | _, _ => txErr

/-- An action may raise an event in turn, up to the given depth. -/
def ecpTxSm (attr : PortAttr) : ℕ → TxEvent → TagEcpULPDU → TagEcpULPDU × List Frame
  | 0, _, ecp => (ecp, [])
  | depth + 1, event, ecp =>
      let done := ecpTxActions attr event ecp.txState ecp
      match done.event with
      | none => (done.ecp, done.sent.toList)
      | some next =>
          let (ecp, sent) := ecpTxSm attr depth next done.ecp
          (ecp, done.sent.toList ++ sent)

end Tx

section Rx

/-- What an action leaves of the entry, the frame it sends and the event it raises. -/
structure RxDone where
  ecpU : TagEcpULPDU
  sent : Option Frame
  event : Option RxEvent

def rxErr (ecpU : TagEcpULPDU) : RxDone := ⟨ecpU, none, none⟩

def rcvWait (ecpU : TagEcpULPDU) : RxDone :=
  ⟨{ ecpU with rxState := .recevieWait, ecpduReceived := false }, none, some .ecpduRecv⟩

def rcvFirst (ecpU : TagEcpULPDU) : RxDone :=
  ⟨{ ecpU with rxState := .receiveFirst, lastSeq := ecpU.ecpdu.sequence - 1 }, none, some .uct⟩

def rcvECPDU (ecpU : TagEcpULPDU) : RxDone :=
  let ecpU := { ecpU with rxState := .receiveEcpdu, seqECPDU := ecpU.ecpdu.sequence }
  ⟨ecpU, none, some (if ecpU.seqECPDU = ecpU.lastSeq then .seqEquLast else .seqNotequLast)⟩

def newECPDU (ecpU : TagEcpULPDU) : RxDone :=
  ⟨{ ecpU with rxState := .newEcpdu, lastSeq := ecpU.seqECPDU }, none, some .uct⟩

def sAck (ecpU : TagEcpULPDU) : RxDone :=
  ⟨{ ecpU with rxState := .sendAck, ecpduReceived := false }, some (frame ecpU.ecpdu []), none⟩

def ecpRxActions : RxEvent → RxState → TagEcpULPDU → RxDone
  | .begin, .idle => rcvWait
  | .ecpduRecv, .recevieWait => rcvFirst
  | .ecpduRecv, .sendAck => rcvECPDU
  | .seqEquLast, .receiveEcpdu => sAck
  | .seqNotequLast, .receiveEcpdu => newECPDU
  | .uct, .receiveFirst => rcvECPDU
  | .uct, .newEcpdu => sAck
  | .portDown, _ => rcvWait
  | _, _ => rxErr

/-- An action may raise an event in turn, up to the given depth. -/
def ecpRxSm : ℕ → RxEvent → TagEcpULPDU → TagEcpULPDU × List Frame
  | 0, _, ecpU => (ecpU, [])
  | depth + 1, event, ecpU =>
      let done := ecpRxActions event ecpU.rxState ecpU
      match done.event with
      | none => (done.ecpU, done.sent.toList)
      | some next =>
          let (ecpU, sent) := ecpRxSm depth next done.ecpU
          (ecpU, done.sent.toList ++ sent)

end Rx

/-- The ECP instance of a port. -/
structure TagEcp where
  ackTimer : UInt32
  lstEcpULPDUtx : List TagEcpULPDU
  lstEcpULPDUrx : List TagEcpULPDU
deriving Repr, DecidableEq

def ecpPortInit (attr : PortAttr) : TagEcp := ⟨attr.ecpAckTimerInit, [], []⟩

section Insert

variable {α : Type}

/-- What a walk with an empty body leaves in the variable: the list from the element that it
points to, and nothing for NULL. -/
def listForeach : List α → List α
  | [] => []
  | _ :: leNext => listForeach leNext

/-- The end of both insertions: the variable of the walk decides on the place. -/
def listInsert (list : List α) (elm : α) : List α :=
  match listForeach list with
  | [] => elm :: list
  | listelm :: leNext => list.take (list.length - (leNext.length + 1)) ++ listelm :: elm :: leNext

end Insert

def listEcpULPDUtxInsert (attr : PortAttr) (tag : ℕ) (pIn : Ecpdu) (ecp : TagEcp) : TagEcp :=
  { ecp with lstEcpULPDUtx := listInsert ecp.lstEcpULPDUtx (initEcpULDPU attr tag 0 pIn) }

/-- The first entry with the sequence number goes. -/
def listRemove (pIn : Ecpdu) (list : List TagEcpULPDU) : List TagEcpULPDU :=
  list.eraseP (·.sequence = pIn.sequence)

def listEcpULPDUrxInsert (attr : PortAttr) (tag : ℕ) (pIn : Ecpdu) (ecp : TagEcp) : TagEcp :=
  { ecp with
    lstEcpULPDUrx := listInsert ecp.lstEcpULPDUrx (initEcpULDPU attr tag pIn.sequence pIn) }

/-- Only the first entry of the list is worked on. The frames come with the tags of their
entries. -/
def ecpTxLoopTimerHandler (attr : PortAttr) (ecp : TagEcp) : TagEcp × List (ℕ × Frame) :=
  if !attr.evbTlvStatusSucc then ({ ecp with lstEcpULPDUtx := [] }, [])
  else
    match ecp.lstEcpULPDUtx with
    | [] => (ecp, [])
    | pULDPU :: leNext =>
        let left (done : TagEcpULPDU × List Frame) : TagEcp × List (ℕ × Frame) :=
          ({ ecp with lstEcpULPDUtx := done.1 :: leNext }, done.2.map (pULDPU.tag, ·))
        if pULDPU.sequence = 0 then
          let (pULDPU, first) := ecpTxSm attr 2 .begin pULDPU
          let pULDPU := { pULDPU with sequence := pULDPU.ecpdu.sequence }
          let (pULDPU, sent) := ecpTxSm attr 2 .reqRecv pULDPU
          left (pULDPU, first ++ sent)
        else if pULDPU.txState = .waitForReq then
          ({ ecp with lstEcpULPDUtx := listRemove pULDPU.ecpdu ecp.lstEcpULPDUtx }, [])
        else
          let ackTimer :=
            if pULDPU.ackTimer > ECP_LOOP_TIMER_INTERVAL then
              pULDPU.ackTimer - ECP_LOOP_TIMER_INTERVAL
            else 0
          let pULDPU := { pULDPU with ackTimer := ackTimer }
          if ackTimer = 0 then
            if pULDPU.retries.toUInt32 < pULDPU.maxTries then
              left (ecpTxSm attr 2 .retransmit pULDPU)
            else left (ecpTxSm attr 2 .notRetransmit pULDPU)
          else left (pULDPU, [])

def Ecpdu.isRequest (ecpdu : Ecpdu) : Bool :=
  (ecpduHeadNTOH ecpdu.verOpSub).operType = ECP_REQUEST

/-- VDP gets the data. -/
def Ecpdu.forVdp (ecpdu : Ecpdu) : Bool :=
  (ecpduHeadNTOH ecpdu.verOpSub).subType = ECP_SUBTYPE_VDP && ecpdu.ulpdu ≠ []

/-- Only the first entry of the list is worked on. What VDP gets comes with the tag of the entry. -/
def ecpRxLoopTimerHandler (attr : PortAttr) (ecp : TagEcp) : TagEcp × List (ℕ × List UInt8) :=
  if !attr.evbTlvStatusSucc then ({ ecp with lstEcpULPDUrx := [] }, [])
  else
    match ecp.lstEcpULPDUrx with
    | [] => (ecp, [])
    | pULDPU :: _ =>
        ({ ecp with lstEcpULPDUrx := listRemove pULDPU.ecpdu ecp.lstEcpULPDUrx },
          if pULDPU.ecpdu.forVdp then [(pULDPU.tag, pULDPU.ecpdu.ulpdu)] else [])

/-- The checks of a received frame. -/
def Frame.accepted (frame : Frame) : Option Ecpdu :=
  if frame.proto ≠ ECP_PROTOCOL_TYPE then none
  else
    match frame.data with
    | high :: low :: seqHigh :: seqLow :: ulpdu =>
        let ed := ecpduHeadNTOH (word high low)
        if ed.version ≠ ECP_VERSION then none
        else if ed.subType ≠ ECP_SUBTYPE_VDP ∧ ed.subType ≠ ECP_SUBTYPE_PECSP then none
        else some ⟨word high low, word seqHigh seqLow, ulpdu⟩
    | _ => none

/-- The accepted requests whose data VDP gets. -/
def Frame.requestForVdp (frame : Frame) : Bool :=
  match frame.accepted with
  | none => false
  | some ecpdu => ecpdu.isRequest && ecpdu.forVdp

/-- The acknowledgement of a request, by a receive machine that is new for each request. -/
def acknowledge (attr : PortAttr) (tag : ℕ) (request : Ecpdu) : List Frame :=
  let subType := (ecpduHeadNTOH request.verOpSub).subType
  let pNewEcpdu : Ecpdu :=
    ⟨ecpduHeadVerOpSub ECP_VERSION ECP_ACK subType, request.sequence, []⟩
  (ecpRxSm 6 .begin (initEcpULDPU attr tag request.sequence pNewEcpdu)).2

/-- A received frame. A new entry gets the given tag; the frames returned are acknowledgements. -/
def ecpRxReceiveFrame (attr : PortAttr) (tag : ℕ) (frame : Frame) (ecp : TagEcp) :
    TagEcp × List Frame :=
  match frame.accepted with
  | none => (ecp, [])
  | some ecpdu =>
      if ecpdu.isRequest then
        (listEcpULPDUrxInsert attr tag ecpdu ecp, acknowledge attr tag ecpdu)
      else if (ecpduHeadNTOH ecpdu.verOpSub).operType = ECP_ACK then
        match ecp.lstEcpULPDUtx.findIdx? (·.sequence = ecpdu.sequence) with
        | none => (ecp, [])
        | some i =>
            ({ ecp with lstEcpULPDUtx := ecp.lstEcpULPDUtx.modify i fun pTmp =>
              (ecpTxSm attr 2 .ackRecvOk { pTmp with ackReceived := true }).1 }, [])
      else (ecp, [])

/-- An entry after a change of the negotiated retries or of the timer. -/
def TagEcpULPDU.follow (attr : PortAttr) (oldAckTimer : UInt32) (pULDPU : TagEcpULPDU) :
    TagEcpULPDU :=
  { pULDPU with
    maxTries := attr.ecpMaxTries
    ackTimer :=
      if pULDPU.ackTimer + attr.ecpAckTimerInit ≥ oldAckTimer then
        pULDPU.ackTimer + attr.ecpAckTimerInit - oldAckTimer
      else 0 }

def evbtlvChgSetEcp (attr : PortAttr) (chgR chgRTE : Bool) (ecp : TagEcp) : TagEcp :=
  if chgR || chgRTE then
    ⟨attr.ecpAckTimerInit, ecp.lstEcpULPDUtx.map (·.follow attr ecp.ackTimer),
      ecp.lstEcpULPDUrx.map (·.follow attr ecp.ackTimer)⟩
  else ecp

def exampleAttr : PortAttr := ⟨true, 1048576, 3⟩

def exampleRequest (seq : UInt16) : Ecpdu :=
  ⟨ecpduHeadVerOpSub ECP_VERSION ECP_REQUEST ECP_SUBTYPE_VDP, seq, [7]⟩

def exampleAck (seq : UInt16) : Frame :=
  frame ⟨ecpduHeadVerOpSub ECP_VERSION ECP_ACK ECP_SUBTYPE_VDP, seq, []⟩ []

section Insert

variable {α : Type}

theorem listForeach_eq (list : List α) : listForeach list = [] := by
  induction list with
  | nil => rfl
  | cons head rest ih => exact ih

/-- The walk always ends with NULL, so every insertion is one at the head. -/
theorem listInsert_eq (list : List α) (elm : α) : listInsert list elm = elm :: list := by
  rw [listInsert, listForeach_eq]

end Insert

theorem txHandler_rx (attr : PortAttr) (ecp : TagEcp) :
    (ecpTxLoopTimerHandler attr ecp).1.lstEcpULPDUrx = ecp.lstEcpULPDUrx := by
  rw [ecpTxLoopTimerHandler]
  split
  · rfl
  split
  · rfl
  rename_i e _ _
  split
  · rfl
  split
  · rfl
  generalize (if e.ackTimer > ECP_LOOP_TIMER_INTERVAL then
    e.ackTimer - ECP_LOOP_TIMER_INTERVAL else 0) = timer
  simp only
  split
  · split
    · rfl
    · rfl
  · rfl

/-- A tick drops the list or takes the first entry out, and hands it over if it is for VDP. -/
theorem rxHandler_cases (attr : PortAttr) {ecp : TagEcp}
    (own : ∀ e ∈ ecp.lstEcpULPDUrx, e.sequence = e.ecpdu.sequence) :
    let result := ecpRxLoopTimerHandler attr ecp
    result.1.lstEcpULPDUtx = ecp.lstEcpULPDUtx ∧
      ((result.1.lstEcpULPDUrx.Sublist ecp.lstEcpULPDUrx ∧ result.2 = []) ∨
        ∃ e, ecp.lstEcpULPDUrx = e :: result.1.lstEcpULPDUrx ∧ e.ecpdu.forVdp = true ∧
          result.2 = [(e.tag, e.ecpdu.ulpdu)]) := by
  intro result
  have shape : result = ecpRxLoopTimerHandler attr ecp := rfl
  rw [ecpRxLoopTimerHandler] at shape
  by_cases open_ : attr.evbTlvStatusSucc = true
  swap
  · rw [if_pos (by simpa using open_)] at shape
    rw [shape]
    exact ⟨rfl, .inl ⟨List.nil_sublist _, rfl⟩⟩
  rw [if_neg (by simpa using open_)] at shape
  cases list : ecp.lstEcpULPDUrx with
  | nil =>
      simp only [list] at shape
      rw [shape, list]
      exact ⟨rfl, .inl ⟨List.nil_sublist _, rfl⟩⟩
  | cons e rest =>
      have same := own e (by rw [list]; exact List.mem_cons_self)
      have removed : listRemove e.ecpdu (e :: rest) = rest := by
        rw [listRemove, List.eraseP_cons_of_pos (by simp [same])]
      simp only [list, removed] at shape
      by_cases forVdp : e.ecpdu.forVdp = true
      · rw [if_pos forVdp] at shape
        rw [shape]
        exact ⟨rfl, .inr ⟨e, rfl, forVdp, rfl⟩⟩
      · rw [if_neg forVdp] at shape
        rw [shape]
        exact ⟨rfl, .inl ⟨List.sublist_cons_self e rest, rfl⟩⟩

end Tecs.Ecp
