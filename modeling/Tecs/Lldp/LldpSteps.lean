import Tecs.Lldp.LldpSettle
import Tecs.Lldp.LldpParse

set_option autoImplicit false

/-! What each call comes to on a port that is at rest, and that it leaves the port at rest. -/

namespace Tecs.Lldp

section Definitions

/-- What transmits, between two calls. -/
structure TxStable (port : LldpPort) : Prop where
  configured : Configured port
  timers : TimersRest port.timers.state
  seen : port.prevPortEnabled = port.portEnabled
  between : port.tx.state ≠ .txInfoFrame
  off : port.portEnabled = false → port.tx.state = .txLldpInitialize

/-- What receives, between two calls. -/
structure RxStable (port : LldpPort) : Prop where
  state : port.rx.state = .lldpWaitPortOperational ∨ port.rx.state = .rxLldpInitialize ∨
    port.rx.state = .rxWaitForFrame
  initial : port.rx.state = .rxLldpInitialize → port.portEnabled = true ∧
    port.adminStatus.receives = false ∧ port.rx.rcvFrame = false
  waiting : port.rx.state = .rxWaitForFrame → port.portEnabled = true ∧
    port.adminStatus.receives = true ∧ port.rx.rcvFrame = false ∧ port.rx.rxInfoAge = false

structure Stable (port : LldpPort) : Prop extends TxStable port, RxStable port

def settleSm (env : Surroundings) (port : LldpPort) : LldpPort × List Transmission :=
  (settleRx (settleTx env port).1, (settleTx env port).2)

def lessDormant (port : LldpPort) : LldpPort :=
  { port with timers := { port.timers with dormantDelay := port.timers.dormantDelay - 1 } }

def tickEffect (env : Surroundings) (port : LldpPort) : LldpPort × List Transmission :=
  let done := settleTx env (settleTimers (updateTxTimers port))
  (lessDormant (settleRx (updateRxTimers done.1)), done.2)

def LldpPort.arrival (port : LldpPort) (frame : EthFrame) : LldpPort :=
  { port with
    stats := { port.stats with statsFramesInTotal := port.stats.statsFramesInTotal + 1 }
    rx := { port.rx with framein := some frame.bytes, rcvFrame := true } }

def receiveEffect (env : Surroundings) (frame : EthFrame) (port : LldpPort) : LldpPort :=
  if !port.adminStatus.receives then
    { port with stats := { port.stats with
      statsFramesDiscardedTotal := port.stats.statsFramesDiscardedTotal + 1 } }
  else if port.rx.framein = some frame.bytes then
    { port with
      timers := { port.timers with rxTTL := port.timers.lastrxTTL }
      stats := { port.stats with statsFramesInTotal := port.stats.statsFramesInTotal + 1 } }
  else if accepts port frame.bytes then
    if port.rx.state = .rxWaitForFrame then
      ((rxProcessFrame env (port.arrival frame).looking).map finishRx).getD port
    else settleRx (port.arrival frame)
  else
    { port with
      stats := { port.stats with
        statsFramesInErrorsTotal := port.stats.statsFramesInErrorsTotal + 1 }
      rx := { port.rx with framein := none } }

def adminEffect (env : Surroundings) (admin : PortAdminStatus) (port : LldpPort) :
    LldpPort × List Transmission :=
  let port :=
    if admin = .disabled then { port with tx := { port.tx with txTTL := 0 } } else port
  if port.adminStatus = admin then (port, [])
  else settleSm env (somethingChangedLocal { port with adminStatus := admin })

def upEffect (env : Surroundings) (port : LldpPort) : LldpPort × List Transmission :=
  settleSm env { mandIfup port with portEnabled := true }

def downEffect (env : Surroundings) (port : LldpPort) : LldpPort × List Transmission :=
  settleSm env { mandIfdown port with
    portEnabled := false
    tx := { port.tx with txTTL := 0 }
    rx := { port.rx with rxInfoAge := false } }

def modeEffect (env : Surroundings) (agentMode : AgentMode) (port : LldpPort) :
    LldpPort × List Transmission :=
  if port.agentMode = agentMode then (port, [])
  else settleSm env (somethingChangedLocal (lldpReinitPort { port with agentMode }))

def Event.effect (event : Event) (port : LldpPort) : LldpPort × List Transmission :=
  match event.call with
  | .timeout => tickEffect event.env port
  | .receive frame => (receiveEffect event.env frame port, [])
  | .admin admin => adminEffect event.env admin port
  | .up => upEffect event.env port
  | .down => downEffect event.env port
  | .changed => (somethingChangedLocal port, [])
  | .mode agentMode => modeEffect event.env agentMode port
  | .reinit => (lldpReinitPort port, [])

/-- The ports after each of a number of calls, with what the call transmitted. -/
def follow : List Event → LldpPort → LldpPort × List (List Transmission)
  | [], port => (port, [])
  | event :: rest, port =>
      let done := event.effect port
      let last := follow rest done.1
      (last.1, done.2 :: last.2)

end Definitions

section Frames

variable {env : Surroundings} {port : LldpPort}

/-- What the machine of the timers may change. -/
def LldpPort.untimed (port : LldpPort) : LldpPort :=
  { port with
    tx := { port.tx with txNow := false, localChange := false, txFast := 0 }
    rx := { port.rx with newNeighbor := false }
    timers := { port.timers with
      state := .txTimerIdle
      txTick := false
      txTTR := 0
      txShutdownWhile := 0
      txCredit := 0
      txMaxCredit := TX_CREDIT_MAX
      txFastInit := TX_FAST_INIT } }

theorem takeChange_untimed : (takeChange port).untimed = port.untimed ∧
    (takeChange port).timers.times = port.timers.times ∧
    (takeChange port).timers.state = port.timers.state := by
  rw [takeChange]
  split <;> exact ⟨rfl, rfl, rfl⟩

theorem takeExpiry_untimed : (takeExpiry port).untimed = port.untimed ∧
    (takeExpiry port).timers.times = port.timers.times ∧
    (takeExpiry port).timers.state = port.timers.state := by
  rw [takeExpiry]
  split <;> exact ⟨rfl, rfl, rfl⟩

theorem takeNeighbor_untimed : (takeNeighbor port).untimed = port.untimed ∧
    (takeNeighbor port).timers.times = port.timers.times ∧
    (takeNeighbor port).timers.state = port.timers.state := by
  rw [takeNeighbor]
  split <;> exact ⟨rfl, rfl, rfl⟩

theorem takeTick_untimed : (takeTick port).untimed = port.untimed ∧
    (takeTick port).timers.times = port.timers.times ∧
    (takeTick port).timers.state = port.timers.state := by
  rw [takeTick]
  split <;> exact ⟨rfl, rfl, rfl⟩

/-- What the timers of a port that transmits go through. -/
def takeAll (port : LldpPort) : LldpPort := takeTick (takeNeighbor (takeExpiry (takeChange port)))

theorem takeAll_untimed : (takeAll port).untimed = port.untimed ∧
    (takeAll port).timers.times = port.timers.times ∧
    (takeAll port).timers.state = port.timers.state := by
  obtain ⟨change, changeTimes, changeState⟩ := @takeChange_untimed port
  obtain ⟨expiry, expiryTimes, expiryState⟩ := @takeExpiry_untimed (takeChange port)
  obtain ⟨new, newTimes, newState⟩ := @takeNeighbor_untimed (takeExpiry (takeChange port))
  obtain ⟨tick, tickTimes, tickState⟩ :=
    @takeTick_untimed (takeNeighbor (takeExpiry (takeChange port)))
  exact ⟨((tick.trans new).trans expiry).trans change,
    ((tickTimes.trans newTimes).trans expiryTimes).trans changeTimes,
    ((tickState.trans newState).trans expiryState).trans changeState⟩

theorem settleTimers_untimed : (settleTimers port).untimed = port.untimed := by
  rw [settleTimers]
  split
  · exact takeAll_untimed.1
  · split <;> rfl

theorem txInitializeTimers_configured (configured : Configured port) :
    Configured (txInitializeTimers port) := by
  rw [Configured, PortTimers.times] at configured ⊢
  simp_all only [txInitializeTimers, Times.mk.injEq]

theorem settleTimers_configured (configured : Configured port) :
    Configured (settleTimers port) := by
  rw [settleTimers]
  split
  · exact takeAll_untimed.2.1.trans configured
  · split
    · exact configured
    · exact txInitializeTimers_configured configured

theorem settleTimers_rests : (settleTimers port).timers.state = .txTimerInitialize ∨
    (settleTimers port).timers.state = .txTimerIdle := by
  rw [settleTimers]
  split
  · exact .inr takeAll_untimed.2.2
  · split
    · next initialized => exact .inl initialized
    · exact .inl rfl

/-- What the machine of the frames may change. -/
def LldpPort.unsent (port : LldpPort) : LldpPort :=
  { port with
    prevPortEnabled := false
    tx := ⟨none, .txIdle, false, 0, false, 0⟩
    stats := ⟨0, 0, 0, 0, 0, 0⟩
    timers := { port.timers with
      txShutdownWhile := 0
      txCredit := 0
      reinitDelay := 0
      msgTxHold := 0
      msgTxInterval := 0
      msgFastTx := 0 } }

theorem processTxInfoFrame_unsent : (processTxInfoFrame env port).1.unsent = port.unsent := rfl

theorem processTxIdle_unsent {state : TxState} :
    (processTxIdle (port.txGo state)).unsent = port.unsent := rfl

theorem sendTx_unsent : (sendTx env port).1.unsent = port.unsent := by
  rw [sendTx]
  split
  · exact processTxIdle_unsent.trans processTxInfoFrame_unsent
  · rfl

theorem startTx_unsent : (startTx env port).1.unsent = port.unsent := by
  rw [startTx]
  split
  · exact sendTx_unsent
  · rfl

theorem processTxShutdownFrame_unsent :
    (processTxShutdownFrame env port).1.unsent = port.unsent := by
  rw [processTxShutdownFrame]
  split <;> rfl

theorem settleTx_unsent : (settleTx env port).1.unsent = port.unsent := by
  rw [settleTx]
  split
  · rw [settleEnabled]
    split
    · exact startTx_unsent
    · split
      · exact sendTx_unsent
      · exact processTxShutdownFrame_unsent
    · split
      · exact startTx_unsent
      · rfl
    · rfl
  · split <;> rfl

/-- What the receiving machine may change. -/
def LldpPort.unheard (port : LldpPort) : LldpPort :=
  { port with
    shown := []
    msap := ⟨none, none⟩
    remoteMacAddr := []
    lldpdu := 0
    rx := { port.rx with
      framein := none
      state := .lldpWaitPortOperational
      badFrame := false
      rcvFrame := false
      rxInfoAge := false
      remoteChange := false
      tooManyNghbrs := false } }

theorem rxGo_unheard (state : RxState) : (port.rxGo state).unheard = port.unheard := rfl

theorem processWaitForFrame_unheard : (processWaitForFrame port).unheard = port.unheard := rfl

theorem mibDeleteObjects_unheard : (mibDeleteObjects port).unheard = port.unheard := rfl

theorem rxInitializeLLDP_unheard : (rxInitializeLLDP port).unheard = port.unheard := by
  rw [rxInitializeLLDP, mibDeleteObjects_unheard]
  rfl

theorem processRxLldpInitialize_unheard :
    (processRxLldpInitialize port).unheard = port.unheard := by
  calc (processRxLldpInitialize port).unheard = (rxInitializeLLDP port).unheard := rfl
    _ = port.unheard := rxInitializeLLDP_unheard

theorem ageOut_unheard : (ageOut port).unheard = port.unheard := by
  calc (ageOut port).unheard = (processDeleteAgedInfo (port.rxGo .deleteAgedInfo)).unheard := rfl
    _ = (mibDeleteObjects (port.rxGo .deleteAgedInfo)).unheard := rfl
    _ = port.unheard := mibDeleteObjects_unheard

theorem deleteNeighbour_unheard : (deleteNeighbour port).unheard = port.unheard := by
  calc (deleteNeighbour port).unheard = (processDeleteInfo (port.rxGo .deleteInfo)).unheard := rfl
    _ = (mibDeleteObjects (port.rxGo .deleteInfo)).unheard := rfl
    _ = port.unheard := mibDeleteObjects_unheard

theorem startRx_unheard : (startRx port).unheard = port.unheard := by
  simp only [startRx]
  split
  · rw [processWaitForFrame_unheard, rxGo_unheard, processRxLldpInitialize_unheard, rxGo_unheard]
  · rw [processRxLldpInitialize_unheard, rxGo_unheard]

theorem settleRx_unheard : (settleRx port).unheard = port.unheard := by
  rw [settleRx]
  split
  · rfl
  · split
    · dsimp only
      split
      · split
        · rw [startRx_unheard, ageOut_unheard]
        · exact ageOut_unheard
      · split
        · exact startRx_unheard
        · rfl
    · split
      · rw [processWaitForFrame_unheard, rxGo_unheard]
      · rfl
    · split
      · rw [processRxLldpInitialize_unheard, rxGo_unheard]
      · split
        · rw [processWaitForFrame_unheard, deleteNeighbour_unheard]
        · rfl
    · rfl

end Frames

section Transmitting

variable {env : Surroundings} {port : LldpPort}

/-- What the frame machine is left in. -/
structure TxDone (port : LldpPort) : Prop where
  configured : Configured port
  seen : port.prevPortEnabled = port.portEnabled
  between : port.tx.state ≠ .txInfoFrame
  off : port.portEnabled = false → port.tx.state = .txLldpInitialize

/-- What the frame machine knows of its port. -/
def LldpPort.txKnown (port : LldpPort) : Times × Bool × Bool :=
  (port.timers.times, port.portEnabled, port.prevPortEnabled)

theorem txGo_txKnown (state : TxState) : (port.txGo state).txKnown = port.txKnown := rfl

theorem processTxIdle_txKnown : (processTxIdle port).txKnown = port.txKnown := rfl

theorem txFrame_txKnown : (txFrame env port).txKnown = port.txKnown := rfl

theorem processTxInfoFrame_txKnown : (processTxInfoFrame env port).1.txKnown = port.txKnown := by
  calc (processTxInfoFrame env port).1.txKnown = (txFrame env { port with
        tx := { port.tx with frameout := mibConstrInfoLLDPDU env port } }).txKnown := rfl
    _ = port.txKnown := txFrame_txKnown

theorem processTxShutdownFrame_txKnown :
    (processTxShutdownFrame env port).1.txKnown = port.txKnown := by
  rw [processTxShutdownFrame]
  split <;> rfl

/-- The same of a port that is enabled, and was when it was last looked at. -/
theorem TxDone.of_live {last : LldpPort} (configured : Configured port) (live : port.Live)
    (known : last.txKnown = port.txKnown) (between : last.tx.state ≠ .txInfoFrame) :
    TxDone last := by
  simp only [LldpPort.txKnown, Prod.mk.injEq] at known
  obtain ⟨times, enabled, prev⟩ := known
  refine ⟨times.trans configured, by rw [prev, enabled, live.1, live.2], between, ?_⟩
  intro off
  exact absurd ((enabled.trans live.1).symm.trans off) (by decide)

theorem sendTx_done (configured : Configured port) (live : port.Live)
    (idle : port.tx.state = .txIdle) : TxDone (sendTx env port).1 := by
  rw [sendTx]
  split
  · apply TxDone.of_live configured live
    · rw [processTxIdle_txKnown, txGo_txKnown, processTxInfoFrame_txKnown, txGo_txKnown]
    · simp [processTxIdle, LldpPort.txGo]
  · exact .of_live configured live rfl (by simp [idle])

theorem startTx_done (configured : Configured port) (live : port.Live)
    (initial : port.tx.state = .txLldpInitialize) : TxDone (startTx env port).1 := by
  rw [startTx]
  split
  · exact @sendTx_done _ (processTxIdle (port.txGo .txIdle)) configured live rfl
  · exact .of_live configured live rfl (by simp [initial])

theorem txInitializeLLDP_configured (configured : Configured port) :
    Configured (txInitializeLLDP port) := by
  rw [Configured, PortTimers.times] at configured ⊢
  simp_all only [txInitializeLLDP, Times.mk.injEq]

theorem settleEnabled_done (configured : Configured port) (live : port.Live)
    (between : port.tx.state ≠ .txInfoFrame) : TxDone (settleEnabled env port).1 := by
  rw [settleEnabled]
  cases here : port.tx.state with
  | txLldpInitialize => exact startTx_done configured live here
  | txIdle =>
      dsimp only
      split
      · exact sendTx_done configured live here
      · have state := @processTxShutdownFrame_state env (port.txGo .txShutdownFrame)
        apply TxDone.of_live configured live
        · rw [processTxShutdownFrame_txKnown, txGo_txKnown]
        · rw [state]
          simp [LldpPort.txGo]
  | txShutdownFrame =>
      dsimp only
      split
      · exact @startTx_done _ (txInitializeLLDP (port.txGo .txLldpInitialize))
          (@txInitializeLLDP_configured (port.txGo .txLldpInitialize) configured) live rfl
      · exact .of_live configured live rfl (by simp [here])
  | txInfoFrame => exact absurd here between

theorem settleTx_done (configured : Configured port) (rests : TxRest port) :
    TxDone (settleTx env port).1 := by
  rw [settleTx]
  split
  · next enabled =>
    exact @settleEnabled_done _ port.seen configured ⟨enabled, enabled⟩ rests.between
  · split
    · next initial => exact ⟨configured, rfl, by simp [LldpPort.seen, initial], fun _ => initial⟩
    · exact ⟨@txInitializeLLDP_configured (port.seen.txGo .txLldpInitialize) configured, rfl,
        by simp [txInitializeLLDP, LldpPort.txGo], fun _ => rfl⟩

end Transmitting

section Receiving

variable {env : Surroundings} {port : LldpPort}

theorem startRx_stable (enabled : port.portEnabled = true) : RxStable (startRx port) := by
  simp only [startRx]
  split
  · next receives =>
    exact ⟨.inr (.inr rfl), fun initial => RxState.noConfusion initial,
      fun _ => ⟨enabled, receives, rfl, rfl⟩⟩
  · next deaf =>
    exact ⟨.inr (.inl rfl), fun _ => ⟨enabled, Bool.eq_false_iff.mpr deaf, rfl⟩,
      fun waits => RxState.noConfusion waits⟩

theorem settleRx_stable (rests : RxRest port) : RxStable (settleRx port) := by
  have waits (next : LldpPort) (state : next.rx.state = .lldpWaitPortOperational) :
      RxStable next := by
    refine ⟨.inl state, fun initial => ?_, fun waiting => ?_⟩
    · exact absurd (state.symm.trans initial) (by decide)
    · exact absurd (state.symm.trans waiting) (by decide)
  rw [settleRx]
  split
  · exact waits _ rfl
  · next wakes =>
    have awake : port.Awake := by
      simpa [LldpPort.Awake, or_iff_not_imp_left] using wakes
    have enabled (started : port.rx.state ≠ .lldpWaitPortOperational) :
        port.portEnabled = true := by
      cases off : port.portEnabled with
      | true => rfl
      | false => exact absurd (rests.off (awake.resolve_right (by simp [off])) off) started
    split
    · next state =>
      dsimp only
      split
      · split
        · next on => exact @startRx_stable (ageOut port) on
        · exact waits _ rfl
      · split
        · next on => exact startRx_stable on
        · exact waits _ state
    · next state =>
      have on := enabled (by simp [state])
      split
      · next receives =>
        exact ⟨.inr (.inr rfl), fun initial => RxState.noConfusion initial,
          fun _ => ⟨on, receives, rests.initial state, rfl⟩⟩
      · next deaf =>
        refine ⟨.inr (.inl state),
          fun _ => ⟨on, Bool.eq_false_iff.mpr deaf, rests.initial state⟩, fun waiting => ?_⟩
        exact absurd (state.symm.trans waiting) (by decide)
    · next state =>
      have on := enabled (by simp [state])
      split
      · next deaf =>
        have silent : port.adminStatus.receives = false := by simpa using deaf
        exact ⟨.inr (.inl rfl), fun _ => ⟨on, silent, rfl⟩,
          fun waiting => RxState.noConfusion waiting⟩
      · next receives =>
        have hears : port.adminStatus.receives = true := by simpa using receives
        split
        · exact ⟨.inr (.inr rfl), fun initial => RxState.noConfusion initial,
            fun _ => ⟨on, hears, rests.waiting state, rfl⟩⟩
        · next young =>
          refine ⟨.inr (.inr state), fun initial => ?_,
            fun _ => ⟨on, hears, rests.waiting state, Bool.eq_false_iff.mpr young⟩⟩
          exact absurd (state.symm.trans initial) (by decide)
    · next other other' other'' =>
      rcases rests.state with state | state | state
      · exact absurd state other
      · exact absurd state other'
      · exact absurd state other''

end Receiving

section Machines

variable {env : Surroundings} {port next : LldpPort} {bound : ℕ}

/-- What the receiving machine looks at before it moves. -/
def LldpPort.rxSeen (port : LldpPort) : RxState × Bool × Bool × Bool × PortAdminStatus :=
  (port.rx.state, port.rx.rcvFrame, port.rx.rxInfoAge, port.portEnabled, port.adminStatus)

theorem RxRest.congr (rests : RxRest port) (same : next.rxSeen = port.rxSeen) : RxRest next := by
  simp only [LldpPort.rxSeen, Prod.mk.injEq] at same
  obtain ⟨state, given, aged, enabled, admin⟩ := same
  constructor
  · rw [state]
    exact rests.state
  · rw [state, given]
    exact rests.initial
  · rw [state, given]
    exact rests.waiting
  · rw [state, aged, admin]
    exact rests.deaf
  · rw [state, aged, enabled]
    exact rests.off

theorem RxStable.congr (stable : RxStable port) (same : next.rxSeen = port.rxSeen) :
    RxStable next := by
  simp only [LldpPort.rxSeen, Prod.mk.injEq] at same
  obtain ⟨state, given, aged, enabled, admin⟩ := same
  constructor
  · rw [state]
    exact stable.state
  · rw [state, given, enabled, admin]
    exact stable.initial
  · rw [state, given, aged, enabled, admin]
    exact stable.waiting

theorem settleTx_rxSeen : (settleTx env port).1.rxSeen = port.rxSeen := by
  have same := congrArg LldpPort.rxSeen (@settleTx_unsent env port)
  exact same

theorem settleTx_timerState :
    (settleTx env port).1.timers.state = port.timers.state := by
  have same := congrArg (fun port : LldpPort => port.timers.state)
    (@settleTx_unsent env port)
  exact same

/-- What the machines that transmit look at before they move. -/
def LldpPort.txSeen (port : LldpPort) : Times × TxTimerState × PortTx × Bool × Bool :=
  (port.timers.times, port.timers.state, port.tx, port.portEnabled, port.prevPortEnabled)

theorem TxStable.congr (stable : TxStable port) (same : next.txSeen = port.txSeen) :
    TxStable next := by
  simp only [LldpPort.txSeen, Prod.mk.injEq] at same
  obtain ⟨times, state, tx, enabled, prev⟩ := same
  constructor
  · exact times.trans stable.configured
  · rw [state]
    exact stable.timers
  · rw [prev, enabled]
    exact stable.seen
  · rw [tx]
    exact stable.between
  · rw [tx, enabled]
    exact stable.off

theorem settleRx_txSeen : (settleRx port).txSeen = port.txSeen := by
  have same := congrArg LldpPort.txSeen (@settleRx_unheard port)
  exact same

theorem TxDone.stable (done : TxDone port) (rests : TimersRest port.timers.state) :
    TxStable port :=
  ⟨done.configured, rests, done.seen, done.between, done.off⟩

theorem settleSm_stable (configured : Configured port) (timers : TimersRest port.timers.state)
    (tx : TxRest port) (rx : RxRest port) : Stable (settleSm env port).1 := by
  have done := @settleTx_done env _ configured tx
  have state := @settleTx_timerState env port
  have known := rx.congr (@settleTx_rxSeen env _)
  exact ⟨(done.stable (state ▸ timers)).congr settleRx_txSeen, settleRx_stable known⟩

theorem runSm_settles (configured : Configured port) (tx : TxRest port) (rx : RxRest port) :
    runSm env (bound + 12) port = some (settleSm env port) := by
  have sent := @runTxSm_settles env _ [] (bound + 7) configured tx
  have heard := @runRxSm_settles env _ (bound + 7) (rx.congr (@settleTx_rxSeen env _))
  rw [runSm, sent, Option.bind_some, heard]
  rfl

end Machines

section Calls

variable {env : Surroundings} {port : LldpPort} {bound : ℕ}

theorem Stable.txRest (stable : Stable port) : TxRest port :=
  ⟨stable.between, fun off => stable.off (stable.seen.symm.trans off)⟩

/-- What ageing may change. -/
def LldpPort.unaged (port : LldpPort) : LldpPort :=
  { port with
    timers := { port.timers with tooManyNghbrsTimer := 0, rxTTL := 0 }
    rx := { port.rx with rxInfoAge := false, tooManyNghbrs := false } }

theorem ageNeighbour_unaged : (ageNeighbour port).unaged = port.unaged := by
  rw [ageNeighbour]
  split
  · rfl
  · split <;> rfl

theorem ageTooMany_unaged : (ageTooMany port).unaged = port.unaged := by
  rw [ageTooMany]
  split <;> rfl

theorem updateRxTimers_unaged : (updateRxTimers port).unaged = port.unaged := by
  rw [updateRxTimers, ageTooMany_unaged, ageNeighbour_unaged]

/-- What has aged is new to a machine that waits for frames, and it receives. -/
theorem RxStable.rests (stable : RxStable port) (next : LldpPort)
    (same : next.unaged = port.unaged) : RxRest next := by
  have state := congrArg (fun port : LldpPort => port.rx.state) same
  have given := congrArg (fun port : LldpPort => port.rx.rcvFrame) same
  have enabled := congrArg LldpPort.portEnabled same
  have receives := congrArg (fun port : LldpPort => port.adminStatus.receives) same
  change next.rx.state = port.rx.state at state
  change next.rx.rcvFrame = port.rx.rcvFrame at given
  change next.portEnabled = port.portEnabled at enabled
  change next.adminStatus.receives = port.adminStatus.receives at receives
  constructor
  · rw [state]
    exact stable.state
  · rw [state, given]
    exact fun initial => (stable.initial initial).2.2
  · rw [state, given]
    exact fun waiting => (stable.waiting waiting).2.2.1
  · rw [state, receives]
    exact fun waiting deaf => absurd ((stable.waiting waiting).2.1.symm.trans deaf) (by decide)
  · rw [state, enabled]
    intro _ off
    rcases stable.state with state | state | state
    · exact state
    · exact absurd ((stable.initial state).1.symm.trans off) (by decide)
    · exact absurd ((stable.waiting state).1.symm.trans off) (by decide)

theorem Stable.rxRest (stable : Stable port) : RxRest port := stable.toRxStable.rests port rfl

theorem admin_applies (stable : Stable port) (admin : PortAdminStatus) :
    setLldpPortAdmin env (bound + 12) admin port = some (adminEffect env admin port) ∧
      Stable (adminEffect env admin port).1 := by
  obtain ⟨cleared, clear⟩ : ∃ cleared : LldpPort, cleared =
      if admin = .disabled then { port with tx := { port.tx with txTTL := 0 } } else port :=
    ⟨_, rfl⟩
  have stable' : Stable cleared := by
    rw [clear]
    split
    · exact ⟨⟨stable.configured, stable.timers, stable.seen, stable.between, stable.off⟩,
        ⟨stable.state, stable.initial, stable.waiting⟩⟩
    · exact stable
  rw [setLldpPortAdmin, adminEffect, ← clear]
  split
  · exact ⟨rfl, stable'⟩
  · have rx : RxRest (somethingChangedLocal { cleared with adminStatus := admin }) := by
      refine ⟨stable'.state, stable'.rxRest.initial, stable'.rxRest.waiting, ?_, stable'.rxRest.off⟩
      exact fun waiting _ => (stable'.waiting waiting).2.2.2
    have tx : TxRest (somethingChangedLocal { cleared with adminStatus := admin }) :=
      ⟨stable'.between, stable'.txRest.started⟩
    exact ⟨runSm_settles stable'.configured tx rx,
      settleSm_stable stable'.configured stable'.timers tx rx⟩

theorem mandIfup_eq : ∃ mand, mandIfup port = { port with mand } := by
  rw [mandIfup]
  split
  · exact ⟨port.mand, rfl⟩
  · exact ⟨_, rfl⟩

theorem up_applies (stable : Stable port) :
    lldpPortUp env (bound + 12) port = some (upEffect env port) ∧
      Stable (upEffect env port).1 := by
  obtain ⟨mand, ifup⟩ := @mandIfup_eq port
  rw [lldpPortUp, setLldpPortEnableState, upEffect, if_pos rfl, ifup]
  have rx : RxRest { port with mand, portEnabled := true } :=
    ⟨stable.state, stable.rxRest.initial, stable.rxRest.waiting, stable.rxRest.deaf,
      fun _ off => Bool.noConfusion off⟩
  have tx : TxRest { port with mand, portEnabled := true } :=
    ⟨stable.between, stable.txRest.started⟩
  exact ⟨runSm_settles stable.configured tx rx,
    settleSm_stable stable.configured stable.timers tx rx⟩

theorem down_applies (stable : Stable port) :
    lldpPortDown env (bound + 12) port = some (downEffect env port) ∧
      Stable (downEffect env port).1 := by
  have rx : RxRest { mandIfdown port with
      portEnabled := false
      tx := { port.tx with txTTL := 0 }
      rx := { port.rx with rxInfoAge := false } } :=
    ⟨stable.state, stable.rxRest.initial, stable.rxRest.waiting, fun _ _ => rfl,
      fun aged => Bool.noConfusion aged⟩
  have tx : TxRest { mandIfdown port with
      portEnabled := false
      tx := { port.tx with txTTL := 0 }
      rx := { port.rx with rxInfoAge := false } } := ⟨stable.between, stable.txRest.started⟩
  exact ⟨runSm_settles stable.configured tx rx,
    settleSm_stable stable.configured stable.timers tx rx⟩

/-- What starting a port anew leaves alone. -/
def LldpPort.fixed (port : LldpPort) : List UInt8 × Vector UInt8 6 × AgentMode × Bool × Bool ×
    PortAdminStatus × Option MandData :=
  (port.name, port.smac, port.agentMode, port.portEnabled, port.prevPortEnabled, port.adminStatus,
    port.mand)

/-- A port that starts anew. -/
structure Fresh (port : LldpPort) : Prop where
  configured : Configured port
  timers : port.timers.state = .txTimerBegin
  tx : port.tx.state = .txLldpInitialize
  rx : port.rx.state = .lldpWaitPortOperational
  forgot : port.rx.rcvFrame = false ∧ port.rx.rxInfoAge = false

theorem lldpReinitPort_fresh (configured : Configured port) : Fresh (lldpReinitPort port) := by
  rw [lldpReinitPort]
  constructor
  · apply txInitializeLLDP_configured
    exact txInitializeTimers_configured configured
  · rfl
  · rfl
  · rfl
  · exact ⟨rfl, rfl⟩

theorem lldpReinitPort_fixed : (lldpReinitPort port).fixed = port.fixed := rfl

theorem Fresh.rxStable (fresh : Fresh port) : RxStable port := by
  refine ⟨.inl fresh.rx, fun initial => ?_, fun waiting => ?_⟩
  · exact absurd (fresh.rx.symm.trans initial) (by decide)
  · exact absurd (fresh.rx.symm.trans waiting) (by decide)

theorem Fresh.stable (fresh : Fresh port) (seen : port.prevPortEnabled = port.portEnabled) :
    Stable port := by
  refine ⟨⟨fresh.configured, .inl fresh.timers, seen, ?_, fun _ => fresh.tx⟩, fresh.rxStable⟩
  rw [fresh.tx]
  decide

theorem reinit_applies (stable : Stable port) : Stable (lldpReinitPort port) := by
  have same := @lldpReinitPort_fixed port
  simp only [LldpPort.fixed, Prod.mk.injEq] at same
  obtain ⟨-, -, -, enabled, prev, -⟩ := same
  exact (lldpReinitPort_fresh stable.configured).stable
    (prev.trans (stable.seen.trans enabled.symm))

theorem mode_applies (stable : Stable port) (agentMode : AgentMode) :
    lldpAgentMode env (bound + 12) agentMode port = some (modeEffect env agentMode port) ∧
      Stable (modeEffect env agentMode port).1 := by
  rw [lldpAgentMode, modeEffect]
  split
  · exact ⟨rfl, stable⟩
  · have again : Stable { port with agentMode } :=
      ⟨⟨stable.configured, stable.timers, stable.seen, stable.between, stable.off⟩,
        ⟨stable.state, stable.initial, stable.waiting⟩⟩
    have new := reinit_applies again
    have rx : RxRest (somethingChangedLocal (lldpReinitPort { port with agentMode })) :=
      ⟨new.state, new.rxRest.initial, new.rxRest.waiting, new.rxRest.deaf, new.rxRest.off⟩
    have tx : TxRest (somethingChangedLocal (lldpReinitPort { port with agentMode })) :=
      ⟨new.between, new.txRest.started⟩
    exact ⟨runSm_settles new.configured tx rx, settleSm_stable new.configured new.timers tx rx⟩

theorem settleTimers_rxSeen : (settleTimers port).rxSeen = port.rxSeen := by
  have same := congrArg LldpPort.rxSeen (@settleTimers_untimed port)
  exact same

theorem settleTimers_txRest (rests : TxRest port) : TxRest (settleTimers port) := by
  have state := congrArg (fun port : LldpPort => port.tx.state)
    (@settleTimers_untimed port)
  have prev := congrArg LldpPort.prevPortEnabled (@settleTimers_untimed port)
  change (settleTimers port).tx.state = port.tx.state at state
  change (settleTimers port).prevPortEnabled = port.prevPortEnabled at prev
  constructor
  · rw [state]
    exact rests.between
  · rw [prev, state]
    exact rests.started

theorem lessDormant_stable (stable : Stable port) : Stable (lessDormant port) :=
  ⟨⟨stable.configured, stable.timers, stable.seen, stable.between, stable.off⟩,
    ⟨stable.state, stable.initial, stable.waiting⟩⟩

theorem TxDone.aged {next : LldpPort} (done : TxDone port) (same : next.unaged = port.unaged) :
    TxDone next := by
  have times := congrArg (fun port : LldpPort => port.timers.times) same
  have tx := congrArg LldpPort.tx same
  have enabled := congrArg LldpPort.portEnabled same
  have prev := congrArg LldpPort.prevPortEnabled same
  change next.timers.times = port.timers.times at times
  change next.tx = port.tx at tx
  change next.portEnabled = port.portEnabled at enabled
  change next.prevPortEnabled = port.prevPortEnabled at prev
  constructor
  · exact times.trans done.configured
  · rw [prev, enabled]
    exact done.seen
  · rw [tx]
    exact done.between
  · rw [tx, enabled]
    exact done.off

theorem tick_applies (stable : Stable port) :
    lldpTimeout env (bound + 12) port = some (tickEffect env port) ∧
      Stable (tickEffect env port).1 := by
  have timed := @runTxTimersSm_settles (updateTxTimers port) bound stable.configured stable.timers
  have configured : Configured (settleTimers (updateTxTimers port)) := by
    exact @settleTimers_configured (updateTxTimers port) stable.configured
  have tx : TxRest (settleTimers (updateTxTimers port)) := by
    exact settleTimers_txRest ⟨stable.between, stable.txRest.started⟩
  have sent := @runTxSm_settles env _ [] (bound + 7) configured tx
  have known : (settleTx env (settleTimers (updateTxTimers port))).1.rxSeen = port.rxSeen := by
    rw [settleTx_rxSeen, settleTimers_rxSeen]
    rfl
  have rx := (stable.toRxStable.congr known).rests _ updateRxTimers_unaged
  have heard := @runRxSm_settles env _ (bound + 7) rx
  have done := (@settleTx_done env _ configured tx).aged updateRxTimers_unaged
  have state : TimersRest
      (updateRxTimers (settleTx env (settleTimers (updateTxTimers port))).1).timers.state := by
    have same := congrArg (fun port : LldpPort => port.timers.state)
      (@updateRxTimers_unaged (settleTx env (settleTimers (updateTxTimers port))).1)
    change (updateRxTimers (settleTx env (settleTimers (updateTxTimers port))).1).timers.state =
      (settleTx env (settleTimers (updateTxTimers port))).1.timers.state at same
    rw [same, settleTx_timerState]
    exact .inr settleTimers_rests
  constructor
  · rw [lldpTimeout, timed, Option.bind_some, sent, Option.bind_some, heard]
    rfl
  · exact lessDormant_stable ⟨(done.stable state).congr settleRx_txSeen, settleRx_stable rx⟩

theorem finishRx_unheard : (finishRx port).unheard = port.unheard := by
  rw [finishRx, processWaitForFrame_unheard]
  split
  · exact deleteNeighbour_unheard
  · rfl

/-- A port that has looked at a frame is at rest again. -/
theorem finishRx_stable (stable : TxStable port) (receives : port.adminStatus.receives = true)
    (enabled : port.portEnabled = true) {last : LldpPort} (looked : Looked port.looking last) :
    Stable (finishRx last) := by
  have unheard := @finishRx_unheard last
  have seen : (finishRx last).txSeen = port.txSeen := by
    have same := congrArg LldpPort.txSeen unheard
    exact Eq.trans same (looked.congr LldpPort.txSeen (fun _ => rfl) rfl)
  have on : (finishRx last).portEnabled = true := by
    have same := congrArg LldpPort.portEnabled unheard
    exact (Eq.trans same (looked.congr (·.portEnabled) (fun _ => rfl) rfl)).trans enabled
  have hears : (finishRx last).adminStatus.receives = true := by
    have same := congrArg (fun port : LldpPort => port.adminStatus.receives) unheard
    exact (Eq.trans same (looked.congr (·.adminStatus.receives) (fun _ => rfl) rfl)).trans receives
  have state : (finishRx last).rx.state = .rxWaitForFrame := by
    rw [finishRx]
    split <;> rfl
  have taken : (finishRx last).rx.rcvFrame = last.rx.rcvFrame := by
    rw [finishRx]
    split <;> rfl
  have given : last.rx.rcvFrame = false := looked.congr (·.rx.rcvFrame) (fun _ => rfl) rfl
  refine ⟨stable.congr seen, .inr (.inr state), fun initial => ?_, fun _ => ?_⟩
  · exact absurd (state.symm.trans initial) (by decide)
  · exact ⟨on, hears, taken.trans given, rfl⟩

theorem receive_applies (stable : Stable port) (frame : EthFrame) :
    rxReceiveFrame env (bound + 12) frame port = some (receiveEffect env frame port) ∧
      Stable (receiveEffect env frame port) := by
  have same (next : LldpPort) (tx : next.txSeen = port.txSeen) (rx : next.rxSeen = port.rxSeen) :
      Stable next := ⟨stable.toTxStable.congr tx, stable.toRxStable.congr rx⟩
  rw [rxReceiveFrame, receiveEffect]
  split
  · exact ⟨rfl, same _ rfl rfl⟩
  · next deaf =>
    have receives : port.adminStatus.receives = true := by simpa using deaf
    split
    · exact ⟨rfl, same _ rfl rfl⟩
    · split
      · split
        · next waits =>
          obtain ⟨enabled, -, -, young⟩ := stable.waiting waits
          obtain ⟨last, processed, looked, ran⟩ := @runRxSm_receives env (port.arrival frame)
            (bound + 8) frame enabled waits receives young rfl rfl
          have arrived : Stable (finishRx last) := by
            exact @finishRx_stable (port.arrival frame) (stable.toTxStable.congr rfl) receives
              enabled _ looked
          rw [processed]
          exact ⟨ran, arrived⟩
        · next started =>
          have state : port.rx.state = .lldpWaitPortOperational := by
            rcases stable.state with state | state | state
            · exact state
            · exact absurd (receives.symm.trans (stable.initial state).2.1) (by decide)
            · exact absurd state started
          have rx : RxRest (port.arrival frame) := by
            refine ⟨.inl state, fun initial => ?_, fun waiting => ?_, fun waiting => ?_,
              fun _ _ => state⟩
            · exact absurd (state.symm.trans initial) (by decide)
            · exact absurd (state.symm.trans waiting) (by decide)
            · exact absurd (state.symm.trans waiting) (by decide)
          refine ⟨@runRxSm_settles _ _ (bound + 7) rx, ?_⟩
          refine ⟨stable.toTxStable.congr (settleRx_txSeen.trans rfl), settleRx_stable rx⟩
      · exact ⟨rfl, same _ rfl rfl⟩

end Calls

section Runs

variable {bound : ℕ} {port : LldpPort}

/-- Each call comes to its effect: every loop in it ends, and no assertion in it fails. -/
theorem apply_effect (stable : Stable port) (event : Event) :
    event.apply (bound + 12) port = some (event.effect port) ∧ Stable (event.effect port).1 := by
  obtain ⟨env, call⟩ := event
  cases call with
  | timeout => exact tick_applies stable
  | receive frame =>
      obtain ⟨applies, rests⟩ := @receive_applies env _ bound stable frame
      refine ⟨?_, rests⟩
      simp only [Event.apply, Event.effect, applies, Option.map_some]
  | admin admin => exact admin_applies stable admin
  | up => exact up_applies stable
  | down => exact down_applies stable
  | changed =>
      exact ⟨rfl, ⟨stable.configured, stable.timers, stable.seen, stable.between, stable.off⟩,
        stable.toRxStable.congr rfl⟩
  | mode agentMode => exact mode_applies stable agentMode
  | reinit => exact ⟨rfl, reinit_applies stable⟩

theorem serve_follow (events : List Event) : ∀ {port : LldpPort}, Stable port →
    serve (bound + 12) events port = some (follow events port) ∧
      Stable (follow events port).1 := by
  induction events with
  | nil => exact fun stable => ⟨rfl, stable⟩
  | cons event rest ih =>
      intro port stable
      obtain ⟨applies, rests⟩ := @apply_effect bound _ stable event
      obtain ⟨served, last⟩ := ih rests
      refine ⟨?_, last⟩
      rw [serve, applies, Option.bind_some, served]
      rfl

theorem follow_stable (events : List Event) (stable : Stable port) :
    Stable (follow events port).1 :=
  (@serve_follow 0 events _ stable).2

theorem serve_runs (events : List Event) (stable : Stable port) :
    serve (bound + 12) events port = some ((follow events port).1, (follow events port).2) :=
  (serve_follow events stable).1

theorem createLldpPort_fresh (name : List UInt8) (mac : Vector UInt8 6) (agentMode : AgentMode) :
    Fresh (createLldpPort name mac agentMode) :=
  ⟨rfl, rfl, rfl, rfl, rfl, rfl⟩

theorem createLldpPort_stable (name : List UInt8) (mac : Vector UInt8 6) (agentMode : AgentMode) :
    Stable (createLldpPort name mac agentMode) :=
  (createLldpPort_fresh name mac agentMode).stable rfl

/-- A port serves any calls from its creation on: no loop takes more than twelve tests, and no
assertion fails. -/
theorem port_never_stuck (name : List UInt8) (mac : Vector UInt8 6) (agentMode : AgentMode)
    (events : List Event) :
    ∃ served, ∀ more, serve (more + 12) events (createLldpPort name mac agentMode) = some served :=
  ⟨follow events (createLldpPort name mac agentMode), fun _ =>
    (serve_follow events (createLldpPort_stable name mac agentMode)).1⟩

/-- A port of its own, and surroundings without other modules. -/
def eth0 : LldpPort := createLldpPort [101, 116, 104, 48] #v[2, 0, 0, 0, 0, 1] .nearestBridge

theorem eth0_stable : Stable eth0 := createLldpPort_stable _ _ _

def plain : Surroundings := ⟨[], nofun, true, fun _ _ _ => some true, fun _ => 0⟩

end Runs

end Tecs.Lldp
