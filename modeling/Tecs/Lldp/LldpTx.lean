import Tecs.Library.Loop
import Tecs.Lldp.LldpPort

set_option autoImplicit false

/-! The two machines that transmit: one for the timers, one for the frames. -/

namespace Tecs.Lldp

section Timers

def LldpPort.transmits (port : LldpPort) : Bool := port.portEnabled && port.adminStatus.transmits

def txInitializeTimers (port : LldpPort) : LldpPort :=
  { port with
    timers := { port.timers with
      txTick := false
      txTTR := 0
      txShutdownWhile := 0
      txMaxCredit := TX_CREDIT_MAX
      txCredit := TX_CREDIT_MAX
      txFastInit := TX_FAST_INIT }
    tx := { port.tx with txNow := false, localChange := false, txFast := 0 }
    rx := { port.rx with newNeighbor := false } }

def updateTxTimers (port : LldpPort) : LldpPort :=
  { port with
    timers := { port.timers with
      txShutdownWhile := port.timers.txShutdownWhile - 1
      txTTR := port.timers.txTTR - 1
      txTick := true } }

def txTimerChangeState (newstate : TxTimerState) (port : LldpPort) : LldpPort :=
  { port with timers := { port.timers with state := newstate } }

/-- The state that the idle state is left for, the conditions in their order. -/
def leaveTimerIdle (port : LldpPort) : TxTimerState :=
  if port.tx.localChange then .txFastStart
  else if port.timers.txTTR = 0 then .txTimerExpires
  else if port.rx.newNeighbor then .txFastStart
  else if port.timers.txTick then .txTick
  else .txTimerIdle

def nextTimerState (port : LldpPort) : TxTimerState → TxTimerState
  | .txTimerBegin => .txTimerBegin
  | .txTimerInitialize => if port.transmits then .txTimerIdle else .txTimerInitialize
  | .txTimerIdle => leaveTimerIdle port
  | .txTimerExpires => .signalTx
  | .signalTx | .txTick => .txTimerIdle
  | .txFastStart => .txTimerExpires

/-- A port that does not transmit is initialised, whatever its state. -/
def setTxTimersState (port : LldpPort) : Bool × LldpPort :=
  let state :=
    if port.timers.state = .txTimerBegin || !port.transmits then .txTimerInitialize
    else port.timers.state
  let newstate := nextTimerState port state
  (decide (newstate ≠ port.timers.state), txTimerChangeState newstate port)

def processTimerExpires (port : LldpPort) : LldpPort :=
  { port with tx := { port.tx with txFast := port.tx.txFast - 1 } }

def processTick (port : LldpPort) : LldpPort :=
  { port with timers := { port.timers with
      txTick := false
      txCredit := if port.timers.txCredit < port.timers.txMaxCredit then port.timers.txCredit + 1
        else port.timers.txCredit } }

def processSignalTx (port : LldpPort) : LldpPort :=
  { port with
    tx := { port.tx with txNow := true, localChange := false }
    timers := { port.timers with
      txTTR := if port.tx.txFast ≠ 0 then port.timers.msgFastTx else port.timers.msgTxInterval } }

def processFastStart (port : LldpPort) : LldpPort :=
  { port with
    rx := { port.rx with newNeighbor := false }
    tx := { port.tx with
      txFast := if port.tx.txFast = 0 then port.timers.txFastInit else port.tx.txFast } }

/-- What is done in the state that the timers have come to. -/
def processTxTimers (port : LldpPort) : LldpPort :=
  match port.timers.state with
  | .txTimerBegin | .txTimerIdle => port
  | .txTimerInitialize => txInitializeTimers port
  | .txTimerExpires => processTimerExpires port
  | .txTick => processTick port
  | .signalTx => processSignalTx port
  | .txFastStart => processFastStart port

def runTxTimersSm (bound : ℕ) : LldpPort → Option LldpPort :=
  Loop.rounds (fun port => some (setTxTimersState port)) (fun port => some (processTxTimers port))
    bound

end Timers

section Transmit

def txInitializeLLDP (port : LldpPort) : LldpPort :=
  { port with
    tx := { port.tx with frameout := none, localChange := false }
    timers := { port.timers with
      reinitDelay := REINIT_DELAY
      msgTxHold := DEFAULT_TX_HOLD
      msgTxInterval := DEFAULT_TX_INTERVAL
      msgFastTx := FAST_TX_INTERVAL } }

/-- No result where the assertion fails. -/
def txChangeState (newstate : TxState) (port : LldpPort) : Option LldpPort :=
  let allowed : Bool := match newstate with
    | .txLldpInitialize => true
    | .txIdle => port.tx.state = .txLldpInitialize || port.tx.state = .txInfoFrame
    | .txShutdownFrame | .txInfoFrame => port.tx.state = .txIdle
  if allowed then some { port with tx := { port.tx with state := newstate } } else none

/-- The state that a frame machine goes to from the one it is in, if there is a reason to. -/
def leaveTxState (port : LldpPort) : Option TxState :=
  match port.tx.state with
  | .txLldpInitialize => if port.transmits then some .txIdle else none
  | .txIdle =>
      if !port.adminStatus.transmits then some .txShutdownFrame
      else if port.tx.txNow ∧ port.timers.txCredit > 0 then some .txInfoFrame
      else none
  | .txShutdownFrame => if port.timers.txShutdownWhile = 0 then some .txLldpInitialize else none
  | .txInfoFrame => some .txIdle

/-- A port that was disabled since the call before starts again. -/
def disableTx (port : LldpPort) : Option LldpPort :=
  (if !port.portEnabled && port.prevPortEnabled then txChangeState .txLldpInitialize port
    else some port).map fun port => { port with prevPortEnabled := port.portEnabled }

def setTxState (port : LldpPort) : Option (Bool × LldpPort) :=
  (disableTx port).bind fun next =>
    (match leaveTxState next with
      | none => some next
      | some newstate => txChangeState newstate next).map fun (last : LldpPort) =>
        (decide (last.tx.state ≠ port.tx.state), last)

def processTxIdle (port : LldpPort) : LldpPort :=
  { port with tx := { port.tx with
      txTTL := min (port.timers.msgTxInterval * port.timers.msgTxHold) 65535 } }

/-- `l2_packet_send` succeeds if there is a frame, and the driver takes it. -/
def txFrame (env : Surroundings) (port : LldpPort) : LldpPort :=
  { port with stats :=
      if port.tx.frameout.isSome ∧ env.sent then
        { port.stats with statsFramesOutTotal := port.stats.statsFramesOutTotal + 1 }
      else
        { port.stats with statsFramesOutErrorsTotal := port.stats.statsFramesOutErrorsTotal + 1 } }

/-- The frame is sent only if it could be made; the delay starts in any case. -/
def processTxShutdownFrame (env : Surroundings) (port : LldpPort) :
    LldpPort × List Transmission :=
  if port.timers.txShutdownWhile = 0 then
    let frameout := mibConstrShutdownLLDPDU port
    let made := { port with tx := { port.tx with frameout } }
    ({ made with
        stats := if frameout.isSome then (txFrame env made).stats else made.stats
        timers := { made.timers with txShutdownWhile := made.timers.reinitDelay } },
      frameout.toList.map .shutdown)
  else (port, [])

/-- The frame is handed on also where it could not be made. -/
def processTxInfoFrame (env : Surroundings) (port : LldpPort) : LldpPort × List Transmission :=
  let frameout := mibConstrInfoLLDPDU env port
  let after := txFrame env { port with tx := { port.tx with frameout } }
  ({ after with
      timers := { after.timers with txCredit := after.timers.txCredit - 1 }
      tx := { after.tx with txNow := false } },
    [.info frameout])

def processTx (env : Surroundings) (port : LldpPort) : LldpPort × List Transmission :=
  match port.tx.state with
  | .txLldpInitialize => (txInitializeLLDP port, [])
  | .txIdle => (processTxIdle port, [])
  | .txShutdownFrame => processTxShutdownFrame env port
  | .txInfoFrame => processTxInfoFrame env port

/-- The port and what was transmitted so far. -/
def runTxSm (env : Surroundings) (bound : ℕ) :
    LldpPort × List Transmission → Option (LldpPort × List Transmission) :=
  Loop.rounds
    (fun run => (setTxState run.1).map fun tested => (tested.1, tested.2, run.2))
    (fun run =>
      let done := processTx env run.1
      some (done.1, run.2 ++ done.2))
    bound

end Transmit

end Tecs.Lldp
