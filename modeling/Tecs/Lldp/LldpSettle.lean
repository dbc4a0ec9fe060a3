import Tecs.Lldp.LldpAgent

set_option autoImplicit false

/-! What the two machines that transmit come to, from the states that a call finds them in. -/

namespace Tecs.Lldp

section Definitions

structure Times where
  reinitDelay : ℕ
  msgTxHold : ℕ
  msgTxInterval : ℕ
  msgFastTx : ℕ
  txFastInit : ℕ
  txMaxCredit : ℕ

def PortTimers.times (timers : PortTimers) : Times :=
  ⟨timers.reinitDelay, timers.msgTxHold, timers.msgTxInterval, timers.msgFastTx, timers.txFastInit,
    timers.txMaxCredit⟩

/-- The times that a port is configured with; no call changes them. -/
def Configured (port : LldpPort) : Prop :=
  port.timers.times = ⟨REINIT_DELAY, DEFAULT_TX_HOLD, DEFAULT_TX_INTERVAL, FAST_TX_INTERVAL,
    TX_FAST_INIT, TX_CREDIT_MAX⟩

def expireTimer (port : LldpPort) : LldpPort := processSignalTx (processTimerExpires port)

/-- The four reasons to leave the idle state of the timers, in their order. -/
def takeChange (port : LldpPort) : LldpPort :=
  if port.tx.localChange then expireTimer (processFastStart port) else port

def takeExpiry (port : LldpPort) : LldpPort :=
  if port.timers.txTTR = 0 then expireTimer port else port

def takeNeighbor (port : LldpPort) : LldpPort :=
  if port.rx.newNeighbor then expireTimer (processFastStart port) else port

def takeTick (port : LldpPort) : LldpPort := if port.timers.txTick then processTick port else port

def settleTimers (port : LldpPort) : LldpPort :=
  if port.transmits then
    takeTick (takeNeighbor (takeExpiry (takeChange (txTimerChangeState .txTimerIdle port))))
  else if port.timers.state = .txTimerInitialize then port
  else txInitializeTimers (txTimerChangeState .txTimerInitialize port)

def LldpPort.txGo (port : LldpPort) (state : TxState) : LldpPort :=
  { port with tx := { port.tx with state } }

/-- An idle port sends what is due. -/
def sendTx (env : Surroundings) (port : LldpPort) : LldpPort × List Transmission :=
  if port.tx.txNow ∧ port.timers.txCredit > 0 then
    let done := processTxInfoFrame env (port.txGo .txInfoFrame)
    (processTxIdle (done.1.txGo .txIdle), done.2)
  else (port, [])

def startTx (env : Surroundings) (port : LldpPort) : LldpPort × List Transmission :=
  if port.adminStatus.transmits then sendTx env (processTxIdle (port.txGo .txIdle)) else (port, [])

def LldpPort.seen (port : LldpPort) : LldpPort := { port with prevPortEnabled := port.portEnabled }

def settleEnabled (env : Surroundings) (port : LldpPort) : LldpPort × List Transmission :=
  match port.tx.state with
  | .txLldpInitialize => startTx env port
  | .txIdle =>
      if port.adminStatus.transmits then sendTx env port
      else processTxShutdownFrame env (port.txGo .txShutdownFrame)
  | .txShutdownFrame =>
      if port.timers.txShutdownWhile = 0 then
        startTx env (txInitializeLLDP (port.txGo .txLldpInitialize))
      else (port, [])
  | .txInfoFrame => (port, [])

def settleTx (env : Surroundings) (port : LldpPort) : LldpPort × List Transmission :=
  if port.portEnabled then settleEnabled env port.seen
  else if port.tx.state = .txLldpInitialize then (port.seen, [])
  else (txInitializeLLDP (port.seen.txGo .txLldpInitialize), [])

end Definitions

section Times

variable {port : LldpPort}

theorem Configured.reinitDelay (configured : Configured port) :
    port.timers.reinitDelay = REINIT_DELAY := congrArg Times.reinitDelay configured

theorem Configured.msgTxInterval (configured : Configured port) :
    port.timers.msgTxInterval = DEFAULT_TX_INTERVAL := congrArg Times.msgTxInterval configured

theorem Configured.msgFastTx (configured : Configured port) :
    port.timers.msgFastTx = FAST_TX_INTERVAL := congrArg Times.msgFastTx configured

theorem Configured.txMaxCredit (configured : Configured port) :
    port.timers.txMaxCredit = TX_CREDIT_MAX := congrArg Times.txMaxCredit configured

end Times

section Timers

variable {port : LldpPort} {bound : ℕ}

def timerTarget (port : LldpPort) : TxTimerState :=
  nextTimerState port
    (if port.timers.state = .txTimerBegin || !port.transmits then .txTimerInitialize
    else port.timers.state)

theorem runTxTimersSm_stay (stays : timerTarget port = port.timers.state) :
    runTxTimersSm (bound + 1) port = some port := by
  apply Loop.rounds_stop
  change some (decide (timerTarget port ≠ port.timers.state),
    txTimerChangeState (timerTarget port) port) = _
  rw [stays, decide_eq_false (not_not_intro rfl)]
  rfl

theorem runTxTimersSm_move {state : TxTimerState} (current : TxTimerState)
    (moves : timerTarget port = state)
    (here : port.timers.state = current) (other : state ≠ current) :
    runTxTimersSm (bound + 1) port =
      runTxTimersSm bound (processTxTimers (txTimerChangeState state port)) := by
  refine @Loop.rounds_again _ _ _ _ _ (txTimerChangeState state port) _ ?_ rfl
  change some (decide (timerTarget port ≠ port.timers.state),
    txTimerChangeState (timerTarget port) port) = _
  rw [moves, here, decide_eq_true other]

theorem timerTarget_of_transmits (current : TxTimerState) (transmits : port.transmits = true)
    (here : port.timers.state = current) (begun : current ≠ .txTimerBegin) :
    timerTarget port = nextTimerState port current := by
  rw [timerTarget, here, if_neg]
  simp [transmits, begun]

theorem timerTarget_idle (transmits : port.transmits = true)
    (idle : port.timers.state = .txTimerIdle) : timerTarget port = leaveTimerIdle port := by
  rw [timerTarget_of_transmits .txTimerIdle transmits idle (by decide), nextTimerState]

theorem txTimerChangeState_of_eq {state : TxTimerState} (same : port.timers.state = state) :
    txTimerChangeState state port = port := by
  subst same
  rfl

/-- From the state where the timer has expired back to the idle one. -/
theorem runTxTimersSm_expires (transmits : port.transmits = true) :
    runTxTimersSm (bound + 2) (processTimerExpires (txTimerChangeState .txTimerExpires port)) =
      runTxTimersSm bound (txTimerChangeState .txTimerIdle (expireTimer port)) := by
  have signal : timerTarget (processTimerExpires (txTimerChangeState .txTimerExpires port)) =
      .signalTx := by
    exact timerTarget_of_transmits .txTimerExpires transmits rfl (by decide)
  have idle : timerTarget (processSignalTx (txTimerChangeState .signalTx
      (processTimerExpires (txTimerChangeState .txTimerExpires port)))) = .txTimerIdle := by
    exact timerTarget_of_transmits .signalTx transmits rfl (by decide)
  rw [runTxTimersSm_move .txTimerExpires signal rfl (by decide)]
  exact runTxTimersSm_move .signalTx idle rfl (by decide)

theorem runTxTimersSm_expire (transmits : port.transmits = true)
    (idle : port.timers.state = .txTimerIdle) (leaves : leaveTimerIdle port = .txTimerExpires) :
    runTxTimersSm (bound + 3) port = runTxTimersSm bound (expireTimer port) := by
  have target := (timerTarget_idle transmits idle).trans leaves
  rw [runTxTimersSm_move .txTimerIdle target idle (by decide)]
  refine (runTxTimersSm_expires transmits).trans ?_
  rw [@txTimerChangeState_of_eq (expireTimer port) _ idle]

theorem runTxTimersSm_fastStart (transmits : port.transmits = true)
    (idle : port.timers.state = .txTimerIdle) (leaves : leaveTimerIdle port = .txFastStart) :
    runTxTimersSm (bound + 4) port =
      runTxTimersSm bound (expireTimer (processFastStart port)) := by
  have target := (timerTarget_idle transmits idle).trans leaves
  have expires : timerTarget (processFastStart (txTimerChangeState .txFastStart port)) =
      .txTimerExpires := by
    exact timerTarget_of_transmits .txFastStart transmits rfl (by decide)
  rw [runTxTimersSm_move .txTimerIdle target idle (by decide)]
  refine (runTxTimersSm_move .txFastStart expires rfl (by decide)).trans ?_
  refine (@runTxTimersSm_expires (processFastStart port) _ transmits).trans ?_
  rw [@txTimerChangeState_of_eq (expireTimer (processFastStart port)) _ idle]

theorem runTxTimersSm_tick (transmits : port.transmits = true)
    (idle : port.timers.state = .txTimerIdle) (leaves : leaveTimerIdle port = .txTick) :
    runTxTimersSm (bound + 2) port = runTxTimersSm bound (processTick port) := by
  have target := (timerTarget_idle transmits idle).trans leaves
  have back : timerTarget (processTick (txTimerChangeState .txTick port)) = .txTimerIdle := by
    exact timerTarget_of_transmits .txTick transmits rfl (by decide)
  rw [runTxTimersSm_move .txTimerIdle target idle (by decide)]
  refine (runTxTimersSm_move .txTick back rfl (by decide)).trans ?_
  change runTxTimersSm bound (txTimerChangeState .txTimerIdle (processTick port)) = _
  rw [@txTimerChangeState_of_eq (processTick port) _ idle]

/-- Of the four reasons, the ones that are left once the timer has expired. -/
theorem expireTimer_txTTR (configured : Configured port) :
    (expireTimer port).timers.txTTR ≠ 0 := by
  change (if port.tx.txFast - 1 ≠ 0 then port.timers.msgFastTx else port.timers.msgTxInterval) ≠ 0
  rw [configured.msgFastTx, configured.msgTxInterval]
  split <;> decide

theorem runTxTimersSm_takeTick (transmits : port.transmits = true)
    (idle : port.timers.state = .txTimerIdle) (unchanged : port.tx.localChange = false)
    (unexpired : port.timers.txTTR ≠ 0) (known : port.rx.newNeighbor = false) :
    runTxTimersSm (bound + 3) port = some (takeTick port) := by
  have leaves : leaveTimerIdle port = if port.timers.txTick then .txTick else .txTimerIdle := by
    simp [leaveTimerIdle, unchanged, unexpired, known]
  rw [takeTick]
  split at leaves
  · next ticked =>
    rw [runTxTimersSm_tick transmits idle leaves, if_pos ticked]
    have still : leaveTimerIdle (processTick port) = .txTimerIdle := by
      simp [leaveTimerIdle, processTick, unchanged, unexpired, known]
    apply runTxTimersSm_stay
    rw [@timerTarget_idle (processTick port) transmits idle, still]
    exact idle.symm
  · next unticked =>
    rw [if_neg unticked]
    apply runTxTimersSm_stay
    rw [timerTarget_idle transmits idle, leaves, idle]

theorem runTxTimersSm_takeNeighbor (configured : Configured port)
    (transmits : port.transmits = true) (idle : port.timers.state = .txTimerIdle)
    (unchanged : port.tx.localChange = false) (unexpired : port.timers.txTTR ≠ 0) :
    runTxTimersSm (bound + 7) port = some (takeTick (takeNeighbor port)) := by
  rw [takeNeighbor]
  split
  · next new =>
    have leaves : leaveTimerIdle port = .txFastStart := by
      simp [leaveTimerIdle, unchanged, unexpired, new]
    rw [runTxTimersSm_fastStart transmits idle leaves]
    exact @runTxTimersSm_takeTick (expireTimer (processFastStart port)) _ transmits idle rfl
      (expireTimer_txTTR configured) rfl
  · next known =>
    exact @runTxTimersSm_takeTick _ (bound + 4) transmits idle unchanged unexpired
      (Bool.eq_false_iff.mpr known)

theorem runTxTimersSm_takeExpiry (configured : Configured port)
    (transmits : port.transmits = true) (idle : port.timers.state = .txTimerIdle)
    (unchanged : port.tx.localChange = false) :
    runTxTimersSm (bound + 10) port = some (takeTick (takeNeighbor (takeExpiry port))) := by
  rw [takeExpiry]
  split
  · next expired =>
    have leaves : leaveTimerIdle port = .txTimerExpires := by
      simp [leaveTimerIdle, unchanged, expired]
    rw [runTxTimersSm_expire transmits idle leaves]
    exact @runTxTimersSm_takeNeighbor (expireTimer port) _ configured transmits idle rfl
      (expireTimer_txTTR configured)
  · next unexpired =>
    exact @runTxTimersSm_takeNeighbor _ (bound + 3) configured transmits idle unchanged unexpired

theorem runTxTimersSm_takeChange (configured : Configured port)
    (transmits : port.transmits = true) (idle : port.timers.state = .txTimerIdle) :
    runTxTimersSm (bound + 11) port =
      some (takeTick (takeNeighbor (takeExpiry (takeChange port)))) := by
  rw [takeChange]
  split
  · next changed =>
    have leaves : leaveTimerIdle port = .txFastStart := by
      simp [leaveTimerIdle, changed]
    have unexpired := @expireTimer_txTTR (processFastStart port) configured
    rw [runTxTimersSm_fastStart transmits idle leaves, takeExpiry, if_neg unexpired]
    exact @runTxTimersSm_takeNeighbor (expireTimer (processFastStart port)) _ configured transmits
      idle rfl unexpired
  · next unchanged =>
    exact @runTxTimersSm_takeExpiry _ (bound + 1) configured transmits idle
      (Bool.eq_false_iff.mpr unchanged)

/-- The states that a call finds the timers in. -/
def TimersRest (state : TxTimerState) : Prop :=
  state = .txTimerBegin ∨ state = .txTimerInitialize ∨ state = .txTimerIdle

theorem runTxTimersSm_settles (configured : Configured port)
    (rests : TimersRest port.timers.state) :
    runTxTimersSm (bound + 12) port = some (settleTimers port) := by
  rw [settleTimers]
  by_cases transmits : port.transmits = true
  · rw [if_pos transmits]
    by_cases idle : port.timers.state = .txTimerIdle
    · rw [txTimerChangeState_of_eq idle]
      exact @runTxTimersSm_takeChange _ (bound + 1) configured transmits idle
    · have target : timerTarget port = .txTimerIdle := by
        rw [timerTarget]
        rcases rests with state | state | state
        · simp [state, nextTimerState, transmits]
        · simp [state, nextTimerState, transmits]
        · exact absurd state idle
      rw [runTxTimersSm_move _ target rfl (Ne.symm idle)]
      exact @runTxTimersSm_takeChange (txTimerChangeState .txTimerIdle port) _ configured transmits
        rfl
  · have target : timerTarget port = .txTimerInitialize := by
      simp [timerTarget, nextTimerState, transmits]
    rw [if_neg transmits]
    split
    · next initialized =>
      exact @runTxTimersSm_stay _ (bound + 11) (target.trans initialized.symm)
    · next started =>
      rw [runTxTimersSm_move _ target rfl (Ne.symm started)]
      apply @runTxTimersSm_stay (txInitializeTimers (txTimerChangeState .txTimerInitialize port))
        (bound + 10)
      have silent : (txInitializeTimers (txTimerChangeState .txTimerInitialize port)).transmits =
          false := by
        exact Bool.eq_false_iff.mpr transmits
      simp [timerTarget, nextTimerState, silent]
      rfl

end Timers

section Transmit

variable {env : Surroundings} {port next : LldpPort} {out : List Transmission} {bound : ℕ}

theorem runTxSm_stop (stops : setTxState port = some (false, next)) :
    runTxSm env (bound + 1) (port, out) = some (next, out) := by
  apply Loop.rounds_stop
  rw [stops]
  rfl

theorem runTxSm_again {turned : LldpPort} {more : List Transmission}
    (moves : setTxState port = some (true, next)) (turns : processTx env next = (turned, more)) :
    runTxSm env (bound + 1) (port, out) = runTxSm env bound (turned, out ++ more) := by
  apply @Loop.rounds_again _ _ _ _ _ (next, out) _
  · rw [moves]
    rfl
  · simp only [turns]

/-- An enabled port has nothing to start again for. -/
theorem setTxState_enabled (enabled : port.portEnabled = true) :
    setTxState port = setTxState port.seen := by
  simp only [setTxState, disableTx, LldpPort.seen, enabled, Bool.not_true, Bool.false_and,
    Bool.false_eq_true, if_false, Option.map_some, Option.bind_some]

theorem runTxSm_enabled (enabled : port.portEnabled = true) :
    runTxSm env bound (port, out) = runTxSm env bound (port.seen, out) := by
  cases bound with
  | zero => rfl
  | succ bound =>
      simp only [runTxSm, Loop.rounds, ← setTxState_enabled enabled]

/-- Both say that the port is enabled. -/
def LldpPort.Live (port : LldpPort) : Prop :=
  port.portEnabled = true ∧ port.prevPortEnabled = true

theorem disableTx_live (live : port.Live) : disableTx port = some port := by
  obtain ⟨enabled, prev⟩ := live
  simp only [disableTx, enabled, Bool.not_true, Bool.false_and, Bool.false_eq_true, if_false,
    Option.map_some, Option.some.injEq]
  cases port
  simp_all only

theorem setTxState_stay (live : port.Live) (stays : leaveTxState port = none) :
    setTxState port = some (false, port) := by
  rw [setTxState, disableTx_live live, Option.bind_some, stays]
  simp

theorem setTxState_move (current : TxState) {state : TxState} (live : port.Live)
    (leaves : leaveTxState port = some state) (here : port.tx.state = current)
    (other : state ≠ current) (allowed : txChangeState state port = some (port.txGo state)) :
    setTxState port = some (true, port.txGo state) := by
  have changes : (port.txGo state).tx.state ≠ port.tx.state := by
    rw [here]
    exact other
  simp only [setTxState, disableTx_live live, Option.bind_some, leaves, allowed, Option.map_some,
    decide_eq_true changes]

theorem runTxSm_send (live : port.Live) (idle : port.tx.state = .txIdle)
    (transmits : port.adminStatus.transmits = true) :
    runTxSm env (bound + 3) (port, out) =
      some ((sendTx env port).1, out ++ (sendTx env port).2) := by
  rw [sendTx]
  split
  · next due =>
    have leaves : leaveTxState port = some .txInfoFrame := by
      simp [leaveTxState, idle, transmits, due]
    have moves := setTxState_move .txIdle live leaves idle (by decide)
      (by simp [txChangeState, idle, LldpPort.txGo])
    let sent := processTxInfoFrame env (port.txGo .txInfoFrame)
    have back : setTxState sent.1 = some (true, sent.1.txGo .txIdle) := by
      exact setTxState_move .txInfoFrame live rfl rfl (by decide) rfl
    have still : leaveTxState (processTxIdle (sent.1.txGo .txIdle)) = none := by
      simp [leaveTxState, processTxIdle, LldpPort.txGo, transmits, sent, processTxInfoFrame,
        txFrame]
    rw [@runTxSm_again _ _ _ _ _ sent.1 _ moves rfl, runTxSm_again back rfl, List.append_nil]
    exact runTxSm_stop (@setTxState_stay (processTxIdle (sent.1.txGo .txIdle)) live still)
  · next quiet =>
    have leaves : leaveTxState port = none := by
      simp [leaveTxState, idle, transmits, quiet]
    rw [@runTxSm_stop _ _ _ _ (bound + 2) (setTxState_stay live leaves), List.append_nil]

theorem runTxSm_start (live : port.Live) (initial : port.tx.state = .txLldpInitialize) :
    runTxSm env (bound + 4) (port, out) =
      some ((startTx env port).1, out ++ (startTx env port).2) := by
  rw [startTx]
  split
  · next transmits =>
    have leaves : leaveTxState port = some .txIdle := by
      simp [leaveTxState, initial, LldpPort.transmits, live.1, transmits]
    have moves := @setTxState_move _ .txLldpInitialize _ live leaves initial (by decide)
      (by simp [txChangeState, initial, LldpPort.txGo])
    rw [runTxSm_again moves rfl, List.append_nil]
    exact @runTxSm_send _ (processTxIdle (port.txGo .txIdle)) _ _ live rfl transmits
  · next silent =>
    have leaves : leaveTxState port = none := by
      simp [leaveTxState, initial, LldpPort.transmits, silent]
    rw [@runTxSm_stop _ _ _ _ (bound + 3) (setTxState_stay live leaves), List.append_nil]

/-- The delay is not over when a shutdown frame was sent. -/
theorem processTxShutdownFrame_waits (configured : Configured port) :
    (processTxShutdownFrame env port).1.timers.txShutdownWhile ≠ 0 := by
  rw [processTxShutdownFrame]
  split
  · change port.timers.reinitDelay ≠ 0
    rw [configured.reinitDelay]
    decide
  · next waits => exact waits

theorem processTxShutdownFrame_live (live : port.Live) :
    (processTxShutdownFrame env port).1.Live := by
  rw [processTxShutdownFrame]
  split
  · exact live
  · exact live

theorem processTxShutdownFrame_state :
    (processTxShutdownFrame env port).1.tx.state = port.tx.state := by
  rw [processTxShutdownFrame]
  split
  · rfl
  · rfl

theorem runTxSm_shutdown (configured : Configured port) (live : port.Live)
    (idle : port.tx.state = .txIdle) (silent : ¬ port.adminStatus.transmits = true) :
    runTxSm env (bound + 2) (port, out) =
      some ((processTxShutdownFrame env (port.txGo .txShutdownFrame)).1,
        out ++ (processTxShutdownFrame env (port.txGo .txShutdownFrame)).2) := by
  have leaves : leaveTxState port = some .txShutdownFrame := by
    simp [leaveTxState, idle, silent]
  have moves := setTxState_move .txIdle live leaves idle (by decide)
    (by simp [txChangeState, idle, LldpPort.txGo])
  have state := @processTxShutdownFrame_state env (port.txGo .txShutdownFrame)
  have waits := @processTxShutdownFrame_waits env (port.txGo .txShutdownFrame) configured
  rw [runTxSm_again moves rfl]
  apply runTxSm_stop
  apply setTxState_stay (@processTxShutdownFrame_live _ (port.txGo .txShutdownFrame) live)
  rw [leaveTxState, state]
  exact if_neg waits

/-- The states that a call finds the frame machine in; only a port that was enabled has left the
first one. -/
structure TxRest (port : LldpPort) : Prop where
  between : port.tx.state ≠ .txInfoFrame
  started : port.prevPortEnabled = false → port.tx.state = .txLldpInitialize

theorem runTxSm_disabled (rests : TxRest port) (disabled : ¬ port.portEnabled = true) :
    runTxSm env (bound + 2) (port, out) =
      some ((settleTx env port).1, out ++ (settleTx env port).2) := by
  have off : port.portEnabled = false := Bool.eq_false_iff.mpr disabled
  rw [settleTx, if_neg disabled]
  split
  · next initial =>
    rw [List.append_nil]
    apply @runTxSm_stop _ _ _ _ (bound + 1)
    have again : txChangeState .txLldpInitialize port = some port := by
      simp [txChangeState, ← initial]
    have stays : leaveTxState port.seen = none := by
      simp [leaveTxState, LldpPort.seen, initial, LldpPort.transmits, off]
    have seen : disableTx port = some port.seen := by
      rw [disableTx, again, ite_self]
      rfl
    rw [setTxState, seen, Option.bind_some, stays]
    simp [LldpPort.seen]
  · next started =>
    have edge : port.prevPortEnabled = true := by
      cases prev : port.prevPortEnabled with
      | false => exact absurd (rests.started prev) started
      | true => rfl
    have moves : setTxState port = some (true, port.seen.txGo .txLldpInitialize) := by
      simp [setTxState, disableTx, off, edge, txChangeState, leaveTxState, LldpPort.transmits,
        LldpPort.txGo, LldpPort.seen, Ne.symm started]
    rw [runTxSm_again moves rfl, List.append_nil]
    apply runTxSm_stop
    simp [setTxState, disableTx, off, txInitializeLLDP, leaveTxState, LldpPort.transmits,
      LldpPort.txGo, LldpPort.seen]

theorem runTxSm_live (configured : Configured port) (live : port.Live)
    (between : port.tx.state ≠ .txInfoFrame) :
    runTxSm env (bound + 5) (port, out) =
      some ((settleEnabled env port).1, out ++ (settleEnabled env port).2) := by
  rw [settleEnabled]
  cases here : port.tx.state with
  | txLldpInitialize => exact @runTxSm_start _ _ _ (bound + 1) live here
  | txIdle =>
      simp only
      split
      · next transmits => exact @runTxSm_send _ _ _ (bound + 2) live here transmits
      · next silent => exact @runTxSm_shutdown _ _ _ (bound + 3) configured live here silent
  | txShutdownFrame =>
      simp only
      split
      · next elapsed =>
        have leaves : leaveTxState port = some .txLldpInitialize := by
          simp [leaveTxState, here, elapsed]
        have moves := @setTxState_move _ .txShutdownFrame _ live leaves here (by decide)
          (by simp [txChangeState, LldpPort.txGo])
        rw [runTxSm_again moves rfl, List.append_nil]
        exact @runTxSm_start _ (txInitializeLLDP (port.txGo .txLldpInitialize)) _ _ live rfl
      · next waits =>
        have leaves : leaveTxState port = none := by
          simp [leaveTxState, here, waits]
        rw [@runTxSm_stop _ _ _ _ (bound + 4) (setTxState_stay live leaves), List.append_nil]
  | txInfoFrame => exact absurd here between

theorem runTxSm_settles (configured : Configured port) (rests : TxRest port) :
    runTxSm env (bound + 5) (port, out) =
      some ((settleTx env port).1, out ++ (settleTx env port).2) := by
  by_cases enabled : port.portEnabled = true
  · rw [runTxSm_enabled enabled, settleTx, if_pos enabled]
    exact @runTxSm_live _ port.seen _ _ configured ⟨enabled, enabled⟩ rests.between
  · exact @runTxSm_disabled _ _ _ (bound + 3) rests enabled

end Transmit

end Tecs.Lldp
