import Tecs.Lldp.LldpTx

set_option autoImplicit false

/-! The machine that receives frames, and the ageing of what they said. -/

namespace Tecs.Lldp

open Bytes
open Tecs.Cdcp (UnpackedTlv)

section Delete

/-- Every module deletes what it has of the peer. -/
def mibDeleteObjects (port : LldpPort) : LldpPort :=
  { port with
    shown := []
    msap := ⟨none, none⟩
    remoteMacAddr := List.replicate 6 0
    lldpdu := 0 }

def rxInitializeLLDP (port : LldpPort) : LldpPort :=
  mibDeleteObjects
    { port with rx := { port.rx with
        rcvFrame := false
        badFrame := false
        tooManyNghbrs := false
        rxInfoAge := false
        framein := none } }

end Delete

section Parse

/-- A frame that came off the wire has its Ethernet header, and is too short for 16-bit offsets into
it to wrap. -/
structure EthFrame where
  bytes : List UInt8
  header : ETH_HDR_LEN ≤ bytes.length
  short : bytes.length ≤ 65022

/-- A byte of the buffer of a frame, or of the memory behind it. -/
def byteAt (env : Surroundings) (framein : List UInt8) (pos : ℕ) : UInt8 :=
  framein.getD pos (env.beyond pos)

def wordAt (env : Surroundings) (framein : List UInt8) (pos : ℕ) : UInt16 :=
  word (byteAt env framein pos) (byteAt env framein (pos + 1))

def bytesFrom (env : Surroundings) (framein : List UInt8) (pos count : ℕ) : List UInt8 :=
  (List.range count).map fun i => byteAt env framein (pos + i)

/-- The parsing of a frame: the port, the TLVs so far, where the next one is, and which of the two
parts of the sender's address were those that are stored. -/
structure RxParse where
  port : LldpPort
  earlier : List UnpackedTlv
  tlvOffset : ℕ
  msapCompare1 : Bool
  msapCompare2 : Bool
  goodNeighbor : Bool

def RCVD_LLDP_TLV (type : UInt8) : UInt16 := 1 <<< type.toUInt16

def RxParse.received (parse : RxParse) (type : UInt8) : Bool :=
  parse.port.lldpdu &&& RCVD_LLDP_TLV type ≠ 0

def RxParse.receive (parse : RxParse) (type : UInt8) : RxParse :=
  { parse with port := { parse.port with lldpdu := parse.port.lldpdu ||| RCVD_LLDP_TLV type } }

def RxParse.chassisId (parse : RxParse) (tlv : UnpackedTlv) : RxParse :=
  match parse.port.msap.msap1 with
  | none => { parse with port := { parse.port with
      msap := { parse.port.msap with msap1 := some tlv.info } } }
  | some msap1 => if tlv.info = msap1 then { parse with msapCompare1 := true } else parse

def RxParse.portId (parse : RxParse) (tlv : UnpackedTlv) : RxParse :=
  match parse.port.msap.msap2 with
  | none => { parse with port := { parse.port with
      msap := { parse.port.msap with msap2 := some tlv.info }
      rx := { parse.port.rx with newNeighbor := true } } }
  | some msap2 =>
      if parse.msapCompare1 ∧ (parse.msapCompare2 ∨ tlv.info = msap2) then
        { parse with msapCompare1 := false, msapCompare2 := false, goodNeighbor := true }
      else
        { parse with
          msapCompare2 := parse.msapCompare2 || tlv.info = msap2
          port := { parse.port with
            rx := { parse.port.rx with tooManyNghbrs := true, newNeighbor := true } } }

/-- The time to live is that of the neighbour that is stored, unless there are two of them. -/
def RxParse.timeToLive (parse : RxParse) (tlv : UnpackedTlv) : RxParse :=
  let ttl := match tlv.info with
    | high :: low :: _ => (word high low).toNat
    | _ => 0
  if parse.port.rx.tooManyNghbrs ∧ !parse.goodNeighbor then
    { parse with
      msapCompare1 := false
      msapCompare2 := false
      port := { parse.port with timers := { parse.port.timers with
        tooManyNghbrsTimer := max ttl parse.port.timers.tooManyNghbrsTimer } } }
  else
    { parse with
      goodNeighbor := false
      port := { parse.port with timers := { parse.port.timers with
        rxTTL := ttl
        lastrxTTL := ttl } } }

/-- The TLVs of types 1 to 8; the first three of them may come once. -/
def RxParse.storeTlv (parse : RxParse) (tlv : UnpackedTlv) : Option RxParse :=
  if tlv.type = 0 ∨ tlv.type > 8 then some parse
  else if tlv.type ≤ 3 ∧ parse.received tlv.type then none
  else
    let parse := parse.receive tlv.type
    some (if tlv.type = CHASSIS_ID_TLV then parse.chassisId tlv
      else if tlv.type = PORT_ID_TLV then parse.portId tlv
      else if tlv.type = TIME_TO_LIVE_TLV then parse.timeToLive tlv
      else parse)

/-- The head of a TLV is sound: the first three are of the types 1, 2 and 3, no later one is. -/
def soundHead (count : ℕ) (type : UInt8) (length : UInt16) : Bool :=
  (if count ≤ 3 then type.toNat = count else type = 0 ∨ type > 3) &&
    !(type = TIME_TO_LIVE_TLV ∧ length ≠ 2)

/-- One TLV: whether there was an error, and whether it was the last one. -/
def RxParse.turn (env : Surroundings) (framein : List UInt8) (parse : RxParse) :
    Bool × Bool × RxParse :=
  if parse.tlvOffset > framein.length then (true, true, parse)
  else
    let head := wordAt env framein parse.tlvOffset
    let length := head &&& 0x01ff
    let type := (head >>> 9).toUInt8
    if !soundHead (parse.earlier.length + 1) type length then (true, true, parse)
    else if (parse.tlvOffset + length.toNat) % 65536 > framein.length then (true, true, parse)
    else
      let tlv := ⟨type, length, bytesFrom env framein (parse.tlvOffset + 2) length.toNat⟩
      match parse.storeTlv tlv with
      | none => (true, true, parse)
      | some next =>
          let next := { next with
            earlier := parse.earlier ++ [tlv]
            tlvOffset := (parse.tlvOffset + 2 + length.toNat) % 65536
            port := { next.port with shown := next.port.shown ++ [tlv] } }
          match env.rchange parse.earlier tlv (decide (1 ≤ type ∧ type ≤ 8)) with
          | none => (true, true, next)
          | some stored =>
              (false, decide (type = 0),
                if stored ∨ type = 0 then next
                else { next with port := { next.port with stats := { next.port.stats with
                  statsTLVsUnrecognizedTotal :=
                    next.port.stats.statsTLVsUnrecognizedTotal + 1 } } })

/-- The loop over the TLVs, with the most turns it may take. -/
def RxParse.run (env : Surroundings) (framein : List UInt8) : ℕ → RxParse → Option (Bool × RxParse)
  | 0, _ => none
  | turns + 1, parse =>
      match parse.turn env framein with
      | (error, true, next) => some (error, next)
      | (_, false, next) => RxParse.run env framein turns next

/-- What a frame with an error leaves behind. -/
def discardFrame (port : LldpPort) : LldpPort :=
  { port with
    stats := { port.stats with
      statsFramesDiscardedTotal := port.stats.statsFramesDiscardedTotal + 1
      statsFramesInErrorsTotal := port.stats.statsFramesInErrorsTotal + 1 }
    rx := { port.rx with badFrame := true, framein := none } }

def startParse (env : Surroundings) (framein : List UInt8) (port : LldpPort) : RxParse where
  port := { port with lldpdu := 0, remoteMacAddr := bytesFrom env framein 6 6 }
  earlier := []
  tlvOffset := ETH_HDR_LEN
  msapCompare1 := false
  msapCompare2 := false
  goodNeighbor := false

/-- No result without a frame: the assertion at the start. -/
def rxProcessFrame (env : Surroundings) (port : LldpPort) : Option LldpPort :=
  match port.rx.framein with
  | none => none
  | some framein =>
      if framein.length = 0 then none
      else
        (RxParse.run env framein framein.length (startParse env framein port)).map fun done =>
          if done.1 then discardFrame done.2.port else done.2.port

end Parse

section Machine

/-- No result where the assertion fails; the assertions on the way to `rxWaitForFrame` all
hold where they are made. -/
def rxChangeState (newstate : RxState) (port : LldpPort) : Option LldpPort :=
  let state := port.rx.state
  let allowed : Bool := match newstate with
    | .lldpWaitPortOperational | .rxWaitForFrame => true
    | .rxLldpInitialize => state = .lldpWaitPortOperational || state = .rxWaitForFrame
    | .deleteAgedInfo => state = .lldpWaitPortOperational
    | .rxFrame => state = .rxWaitForFrame
    | .deleteInfo => state = .rxWaitForFrame || state = .rxFrame
    | .updateInfo => state = .rxFrame
  if allowed then some { port with rx := { port.rx with state := newstate } } else none

/-- A port that does not receive any more goes on to the test for what has arrived or aged. -/
def leaveWaitForFrame (port : LldpPort) : Option LldpPort :=
  (if !port.adminStatus.receives then rxChangeState .rxLldpInitialize port
    else some port).bind fun next =>
      if next.rx.rxInfoAge then rxChangeState .deleteInfo next
      else if next.rx.rcvFrame then rxChangeState .rxFrame next
      else some next

def leaveRxState (port : LldpPort) : Option LldpPort :=
  match port.rx.state with
  | .lldpWaitPortOperational =>
      if port.rx.rxInfoAge then rxChangeState .deleteAgedInfo port
      else if port.portEnabled then rxChangeState .rxLldpInitialize port
      else some port
  | .deleteAgedInfo => rxChangeState .lldpWaitPortOperational port
  | .rxLldpInitialize =>
      if port.adminStatus.receives then rxChangeState .rxWaitForFrame port else some port
  | .rxWaitForFrame => leaveWaitForFrame port
  | .deleteInfo | .updateInfo => rxChangeState .rxWaitForFrame port
  | .rxFrame =>
      if port.timers.rxTTL = 0 then rxChangeState .deleteInfo port
      else if port.rxChanges then rxChangeState .updateInfo port
      else rxChangeState .rxWaitForFrame port

def setRxState (port : LldpPort) : Option (Bool × LldpPort) :=
  (if !port.rx.rxInfoAge && !port.portEnabled then rxChangeState .lldpWaitPortOperational port
    else some port).bind fun next =>
      (leaveRxState next).map fun (last : LldpPort) =>
        (decide (last.rx.state ≠ port.rx.state), last)

def processDeleteAgedInfo (port : LldpPort) : LldpPort :=
  let port := mibDeleteObjects port
  { port with rx := { port.rx with rxInfoAge := false, remoteChange := true } }

def processRxLldpInitialize (port : LldpPort) : LldpPort :=
  let port := rxInitializeLLDP port
  { port with rx := { port.rx with rcvFrame := false } }

def processWaitForFrame (port : LldpPort) : LldpPort :=
  { port with rx := { port.rx with badFrame := false, rxInfoAge := false } }

def processRxFrame (env : Surroundings) (port : LldpPort) : Option LldpPort :=
  rxProcessFrame env
    { port with
      rx := { port.rx with remoteChange := false, rcvFrame := false }
      rxChanges := false }

def processDeleteInfo (port : LldpPort) : LldpPort :=
  let port := mibDeleteObjects port
  { port with rx := { port.rx with framein := none, remoteChange := true } }

def processUpdateInfo (port : LldpPort) : LldpPort :=
  { port with rx := { port.rx with remoteChange := true } }

def processRx (env : Surroundings) (port : LldpPort) : Option LldpPort :=
  match port.rx.state with
  | .lldpWaitPortOperational => some port
  | .deleteAgedInfo => some (processDeleteAgedInfo port)
  | .rxLldpInitialize => some (processRxLldpInitialize port)
  | .rxWaitForFrame => some (processWaitForFrame port)
  | .rxFrame => processRxFrame env port
  | .deleteInfo => some (processDeleteInfo port)
  | .updateInfo => some (processUpdateInfo port)

def runRxSm (env : Surroundings) (bound : ℕ) : LldpPort → Option LldpPort :=
  Loop.rounds setRxState (processRx env) bound

end Machine

section Ageing

/-- The neighbour that is stored is one second older. -/
def ageNeighbour (port : LldpPort) : LldpPort :=
  if port.timers.rxTTL = 0 then port
  else if port.timers.rxTTL = 1 then
    { port with
      timers := { port.timers with rxTTL := 0, tooManyNghbrsTimer := 0 }
      rx := { port.rx with
        rxInfoAge := true
        tooManyNghbrs :=
          if port.timers.tooManyNghbrsTimer ≠ 0 then false else port.rx.tooManyNghbrs } }
  else { port with timers := { port.timers with rxTTL := port.timers.rxTTL - 1 } }

/-- And so is the one for which there was no room. -/
def ageTooMany (port : LldpPort) : LldpPort :=
  if port.timers.tooManyNghbrsTimer = 0 then port
  else
    { port with
      timers := { port.timers with tooManyNghbrsTimer := port.timers.tooManyNghbrsTimer - 1 }
      rx := { port.rx with
        tooManyNghbrs :=
          if port.timers.tooManyNghbrsTimer = 1 then false else port.rx.tooManyNghbrs } }

def updateRxTimers (port : LldpPort) : LldpPort := ageTooMany (ageNeighbour port)

end Ageing

section Receive

/-- A frame is for the port: it is sent to its group address, as LLDP, by somebody else. -/
def accepts (port : LldpPort) (bytes : List UInt8) : Bool :=
  bytes.take 6 = port.agentMode.dmac &&
    (bytes.drop 12).take 2 = ofWord ETH_P_LLDP &&
    (bytes.drop 6).take 6 ≠ port.smac.toList

/-- A frame that is the one before it again starts the time to live anew, and nothing else. -/
def rxReceiveFrame (env : Surroundings) (bound : ℕ) (frame : EthFrame) (port : LldpPort) :
    Option LldpPort :=
  if !port.adminStatus.receives then
    some { port with stats := { port.stats with
      statsFramesDiscardedTotal := port.stats.statsFramesDiscardedTotal + 1 } }
  else if port.rx.framein = some frame.bytes then
    some { port with
      timers := { port.timers with rxTTL := port.timers.lastrxTTL }
      stats := { port.stats with statsFramesInTotal := port.stats.statsFramesInTotal + 1 } }
  else if accepts port frame.bytes then
    runRxSm env bound { port with
      stats := { port.stats with statsFramesInTotal := port.stats.statsFramesInTotal + 1 }
      rx := { port.rx with framein := some frame.bytes, rcvFrame := true } }
  else
    some { port with
      stats := { port.stats with
        statsFramesInErrorsTotal := port.stats.statsFramesInErrorsTotal + 1 }
      rx := { port.rx with framein := none } }

end Receive

end Tecs.Lldp
