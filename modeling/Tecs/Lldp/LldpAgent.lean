import Tecs.Library.Run
import Tecs.Lldp.LldpRx

set_option autoImplicit false

/-! The calls that an LLDP port is subject to, and its runs. -/

namespace Tecs.Lldp

section Calls

/-- `create_lldp_port`. -/
def createLldpPort (name : List UInt8) (mac : Vector UInt8 6) (agentMode : AgentMode) : LldpPort :=
  txInitializeLLDP (txInitializeTimers (rxInitializeLLDP
    { name
      smac := mac
      agentMode
      portEnabled := false
      prevPortEnabled := false
      adminStatus := .enabledRxTx
      remoteMacAddr := []
      rx := ⟨none, .lldpWaitPortOperational, false, false, false, false, false, false⟩
      tx := ⟨none, .txLldpInitialize, false, 0, false, 0⟩
      stats := ⟨0, 0, 0, 0, 0, 0⟩
      timers := ⟨DORMANT_DELAY, .txTimerBegin, 0, 0, 0, 0, 0, 0, 0, 0, 0, false, 0, 0, 0⟩
      rxChanges := false
      lldpdu := 0
      msap := ⟨none, none⟩
      mand := none
      shown := [] }))

def somethingChangedLocal (port : LldpPort) : LldpPort :=
  { port with tx := { port.tx with localChange := true, txFast := port.timers.txFastInit } }

/-- The two machines, one after the other. -/
def runSm (env : Surroundings) (bound : ℕ) (port : LldpPort) :
    Option (LldpPort × List Transmission) :=
  (runTxSm env bound (port, [])).bind fun done =>
    (runRxSm env bound done.1).map fun last => (last, done.2)

def setLldpPortAdmin (env : Surroundings) (bound : ℕ) (admin : PortAdminStatus) (port : LldpPort) :
    Option (LldpPort × List Transmission) :=
  let port :=
    if admin = .disabled then { port with tx := { port.tx with txTTL := 0 } } else port
  if port.adminStatus = admin then some (port, [])
  else runSm env bound (somethingChangedLocal { port with adminStatus := admin })

def setLldpPortEnableState (env : Surroundings) (bound : ℕ) (enable : Bool) (port : LldpPort) :
    Option (LldpPort × List Transmission) :=
  let port := { port with portEnabled := enable }
  runSm env bound
    (if enable then port
    else
      { port with
        tx := { port.tx with txTTL := 0 }
        rx := { port.rx with rxInfoAge := false } })

def lldpPortUp (env : Surroundings) (bound : ℕ) (port : LldpPort) :
    Option (LldpPort × List Transmission) :=
  setLldpPortEnableState env bound true (mandIfup port)

def lldpPortDown (env : Surroundings) (bound : ℕ) (port : LldpPort) :
    Option (LldpPort × List Transmission) :=
  setLldpPortEnableState env bound false (mandIfdown port)

def lldpReinitPort (port : LldpPort) : LldpPort :=
  txInitializeLLDP (txInitializeTimers (rxInitializeLLDP
    { port with
      tx := { port.tx with state := .txLldpInitialize, txTTL := 0 }
      rx := { port.rx with state := .lldpWaitPortOperational }
      msap := ⟨none, none⟩
      lldpdu := 0
      timers := { port.timers with state := .txTimerBegin, dormantDelay := DORMANT_DELAY } }))

def lldpAgentMode (env : Surroundings) (bound : ℕ) (agentMode : AgentMode) (port : LldpPort) :
    Option (LldpPort × List Transmission) :=
  if port.agentMode = agentMode then some (port, [])
  else runSm env bound (somethingChangedLocal (lldpReinitPort { port with agentMode }))

/-- `lldp_timeout`, for one of the ports. -/
def lldpTimeout (env : Surroundings) (bound : ℕ) (port : LldpPort) :
    Option (LldpPort × List Transmission) :=
  (runTxTimersSm bound (updateTxTimers port)).bind fun port =>
    (runTxSm env bound (port, [])).bind fun done =>
      (runRxSm env bound (updateRxTimers done.1)).map fun (last : LldpPort) =>
        ({ last with timers := { last.timers with
            dormantDelay := last.timers.dormantDelay - 1 } }, done.2)

end Calls

section Runs

inductive Call
  | timeout
  | receive (frame : EthFrame)
  | admin (admin : PortAdminStatus)
  | up
  | down
  | changed
  | mode (agentMode : AgentMode)
  | reinit

/-- A call, in its surroundings. -/
structure Event where
  env : Surroundings
  call : Call

def Event.apply (bound : ℕ) (event : Event) (port : LldpPort) :
    Option (LldpPort × List Transmission) :=
  match event.call with
  | .timeout => lldpTimeout event.env bound port
  | .receive frame => (rxReceiveFrame event.env bound frame port).map fun port => (port, [])
  | .admin admin => setLldpPortAdmin event.env bound admin port
  | .up => lldpPortUp event.env bound port
  | .down => lldpPortDown event.env bound port
  | .changed => some (somethingChangedLocal port, [])
  | .mode agentMode => lldpAgentMode event.env bound agentMode port
  | .reinit => some (lldpReinitPort port, [])

/-- The port after a number of calls, and what each of them transmitted. -/
def serve (bound : ℕ) : List Event → LldpPort → Option (LldpPort × List (List Transmission))
  | [], port => some (port, [])
  | event :: rest, port =>
      (event.apply bound port).bind fun done =>
        (serve bound rest done.1).map fun (last : LldpPort × List (List Transmission)) =>
          (last.1, done.2 :: last.2)

end Runs

end Tecs.Lldp
