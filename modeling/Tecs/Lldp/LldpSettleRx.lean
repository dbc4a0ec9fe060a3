import Tecs.Lldp.LldpAgent

set_option autoImplicit false

/-! What the receiving machine comes to, from the states that a call finds it in. -/

namespace Tecs.Lldp

section Definitions

def LldpPort.rxGo (port : LldpPort) (state : RxState) : LldpPort :=
  { port with rx := { port.rx with state } }

def startRx (port : LldpPort) : LldpPort :=
  let port := processRxLldpInitialize (port.rxGo .rxLldpInitialize)
  if port.adminStatus.receives then processWaitForFrame (port.rxGo .rxWaitForFrame) else port

def ageOut (port : LldpPort) : LldpPort :=
  (processDeleteAgedInfo (port.rxGo .deleteAgedInfo)).rxGo .lldpWaitPortOperational

def deleteNeighbour (port : LldpPort) : LldpPort :=
  (processDeleteInfo (port.rxGo .deleteInfo)).rxGo .rxWaitForFrame

/-- Without a frame to look at. -/
def settleRx (port : LldpPort) : LldpPort :=
  if !port.rx.rxInfoAge && !port.portEnabled then port.rxGo .lldpWaitPortOperational
  else
    match port.rx.state with
    | .lldpWaitPortOperational =>
        let port := if port.rx.rxInfoAge then ageOut port else port
        if port.portEnabled then startRx port else port
    | .rxLldpInitialize =>
        if port.adminStatus.receives then processWaitForFrame (port.rxGo .rxWaitForFrame) else port
    | .rxWaitForFrame =>
        if !port.adminStatus.receives then
          processRxLldpInitialize (port.rxGo .rxLldpInitialize)
        else if port.rx.rxInfoAge then processWaitForFrame (deleteNeighbour port)
        else port
    | _ => port

/-- What follows the parsing of a frame. -/
def finishRx (port : LldpPort) : LldpPort :=
  processWaitForFrame
    (if port.timers.rxTTL = 0 then deleteNeighbour port else port.rxGo .rxWaitForFrame)

/-- The states that a call finds the machine in: nothing has arrived that it has not seen. -/
structure RxRest (port : LldpPort) : Prop where
  state : port.rx.state = .lldpWaitPortOperational ∨ port.rx.state = .rxLldpInitialize ∨
    port.rx.state = .rxWaitForFrame
  initial : port.rx.state = .rxLldpInitialize → port.rx.rcvFrame = false
  waiting : port.rx.state = .rxWaitForFrame → port.rx.rcvFrame = false
  deaf : port.rx.state = .rxWaitForFrame → port.adminStatus.receives = false →
    port.rx.rxInfoAge = false
  off : port.rx.rxInfoAge = true → port.portEnabled = false →
    port.rx.state = .lldpWaitPortOperational

end Definitions

section Steps

variable {env : Surroundings} {port next turned : LldpPort} {bound : ℕ}

theorem runRxSm_stop (stops : setRxState port = some (false, next)) :
    runRxSm env (bound + 1) port = some next := Loop.rounds_stop stops

theorem runRxSm_again (moves : setRxState port = some (true, next))
    (turns : processRx env next = some turned) :
    runRxSm env (bound + 1) port = runRxSm env bound turned := Loop.rounds_again moves turns

/-- The port is enabled, or what it knows has aged. -/
def LldpPort.Awake (port : LldpPort) : Prop :=
  port.rx.rxInfoAge = true ∨ port.portEnabled = true

theorem setRxState_awake (awake : port.Awake) :
    setRxState port = (leaveRxState port).map fun (last : LldpPort) =>
      (decide (last.rx.state ≠ port.rx.state), last) := by
  have no : (!port.rx.rxInfoAge && !port.portEnabled) = false := by
    rcases awake with aged | enabled
    · simp [aged]
    · simp [enabled]
  simp only [setRxState, no, Bool.false_eq_true, if_false, Option.bind_some]

theorem setRxState_stay (awake : port.Awake) (stays : leaveRxState port = some port) :
    setRxState port = some (false, port) := by
  rw [setRxState_awake awake, stays]
  simp

theorem setRxState_move (current : RxState) {state : RxState} (awake : port.Awake)
    (leaves : leaveRxState port = some (port.rxGo state)) (here : port.rx.state = current)
    (other : state ≠ current) : setRxState port = some (true, port.rxGo state) := by
  have changes : (port.rxGo state).rx.state ≠ port.rx.state := by
    rw [here]
    exact other
  rw [setRxState_awake awake, leaves, Option.map_some, decide_eq_true changes]

theorem not_awake (asleep : (!port.rx.rxInfoAge && !port.portEnabled) = true) :
    port.rx.rxInfoAge = false ∧ port.portEnabled = false := by
  simpa using asleep

theorem runRxSm_asleep (asleep : (!port.rx.rxInfoAge && !port.portEnabled) = true) :
    runRxSm env (bound + 2) port = some (port.rxGo .lldpWaitPortOperational) := by
  obtain ⟨young, off⟩ := not_awake asleep
  have leaves (next : LldpPort) (state : next.rx.state = .lldpWaitPortOperational)
      (young : next.rx.rxInfoAge = false) (off : next.portEnabled = false) :
      leaveRxState next = some next := by
    simp [leaveRxState, state, young, off]
  have first : setRxState port = some (decide (.lldpWaitPortOperational ≠ port.rx.state),
      port.rxGo .lldpWaitPortOperational) := by
    have go : rxChangeState .lldpWaitPortOperational port =
        some (port.rxGo .lldpWaitPortOperational) := rfl
    rw [setRxState, asleep, if_pos rfl, go, Option.bind_some,
      leaves (port.rxGo .lldpWaitPortOperational) rfl young off]
    rfl
  by_cases state : port.rx.state = .lldpWaitPortOperational
  · exact @runRxSm_stop _ _ _ (bound + 1) (by rw [first, state]; rfl)
  · have moves : setRxState port = some (true, port.rxGo .lldpWaitPortOperational) := by
      rw [first, decide_eq_true (Ne.symm state)]
    rw [runRxSm_again moves rfl]
    apply runRxSm_stop
    simp [setRxState, LldpPort.rxGo, young, off, rxChangeState, leaveRxState]

/-- The last state of a machine that has started, with nothing to look at. -/
theorem runRxSm_quiet (enabled : port.portEnabled = true)
    (waits : port.rx.state = .rxWaitForFrame) (receives : port.adminStatus.receives = true)
    (young : port.rx.rxInfoAge = false) (nothing : port.rx.rcvFrame = false) :
    runRxSm env (bound + 1) port = some port := by
  apply runRxSm_stop
  apply setRxState_stay (.inr enabled)
  simp [leaveRxState, waits, leaveWaitForFrame, receives, young, nothing]

theorem runRxSm_initial (enabled : port.portEnabled = true)
    (initial : port.rx.state = .rxLldpInitialize) (nothing : port.rx.rcvFrame = false) :
    runRxSm env (bound + 2) port =
      some (if port.adminStatus.receives then processWaitForFrame (port.rxGo .rxWaitForFrame)
        else port) := by
  split
  · next receives =>
    have leaves : leaveRxState port = some (port.rxGo .rxWaitForFrame) := by
      simp [leaveRxState, initial, receives, rxChangeState, LldpPort.rxGo]
    rw [runRxSm_again (setRxState_move .rxLldpInitialize (.inr enabled) leaves initial (by decide))
      rfl]
    exact @runRxSm_quiet _ (processWaitForFrame (port.rxGo .rxWaitForFrame)) _ enabled rfl receives
      rfl nothing
  · next deaf =>
    apply @runRxSm_stop _ _ _ (bound + 1)
    apply setRxState_stay (.inr enabled)
    simp [leaveRxState, initial, deaf]

theorem runRxSm_start (enabled : port.portEnabled = true) (young : port.rx.rxInfoAge = false)
    (waits : port.rx.state = .lldpWaitPortOperational) :
    runRxSm env (bound + 3) port = some (startRx port) := by
  have leaves : leaveRxState port = some (port.rxGo .rxLldpInitialize) := by
    simp [leaveRxState, waits, young, enabled, rxChangeState, LldpPort.rxGo]
  rw [runRxSm_again
    (setRxState_move .lldpWaitPortOperational (.inr enabled) leaves waits (by decide)) rfl]
  exact @runRxSm_initial _ (processRxLldpInitialize (port.rxGo .rxLldpInitialize)) _ enabled rfl rfl

theorem runRxSm_aged (aged : port.rx.rxInfoAge = true)
    (waits : port.rx.state = .lldpWaitPortOperational) :
    runRxSm env (bound + 5) port =
      some (if port.portEnabled then startRx (ageOut port) else ageOut port) := by
  have leaves : leaveRxState port = some (port.rxGo .deleteAgedInfo) := by
    simp [leaveRxState, waits, aged, rxChangeState, LldpPort.rxGo]
  rw [runRxSm_again
    (setRxState_move .lldpWaitPortOperational (.inl aged) leaves waits (by decide)) rfl]
  split
  · next enabled =>
    have back : setRxState (processDeleteAgedInfo (port.rxGo .deleteAgedInfo)) =
        some (true, ageOut port) := by
      exact @setRxState_move _ .deleteAgedInfo _ (.inr enabled) rfl rfl (by decide)
    rw [runRxSm_again back rfl]
    exact @runRxSm_start _ (ageOut port) _ enabled rfl rfl
  · next off =>
    have asleep : (!port.portEnabled) = true := by
      simp [off]
    exact @runRxSm_asleep _ (processDeleteAgedInfo (port.rxGo .deleteAgedInfo)) (bound + 2) asleep

theorem runRxSm_waiting (enabled : port.portEnabled = true)
    (waits : port.rx.state = .rxWaitForFrame) (rests : RxRest port) :
    runRxSm env (bound + 3) port =
      some (if !port.adminStatus.receives then
          processRxLldpInitialize (port.rxGo .rxLldpInitialize)
        else if port.rx.rxInfoAge then processWaitForFrame (deleteNeighbour port)
        else port) := by
  have nothing := rests.waiting waits
  cases receives : port.adminStatus.receives with
  | false =>
      have young := rests.deaf waits receives
      have leaves : leaveRxState port = some (port.rxGo .rxLldpInitialize) := by
        simp [leaveRxState, leaveWaitForFrame, waits, young, nothing, receives, rxChangeState,
          LldpPort.rxGo]
      rw [runRxSm_again (setRxState_move .rxWaitForFrame (.inr enabled) leaves waits (by decide))
        rfl]
      have stays := @runRxSm_initial env (processRxLldpInitialize (port.rxGo .rxLldpInitialize))
        bound enabled rfl rfl
      have deaf : ¬ (processRxLldpInitialize
          (port.rxGo .rxLldpInitialize)).adminStatus.receives = true := by
        exact Bool.eq_false_iff.mp receives
      rw [if_neg deaf] at stays
      exact stays
  | true =>
      simp only [Bool.not_true, Bool.false_eq_true, if_false]
      split
      · next aged =>
        have leaves : leaveRxState port = some (port.rxGo .deleteInfo) := by
          simp [leaveRxState, leaveWaitForFrame, waits, aged, receives, rxChangeState,
            LldpPort.rxGo]
        have back : setRxState (processDeleteInfo (port.rxGo .deleteInfo)) =
            some (true, deleteNeighbour port) := by
          exact @setRxState_move _ .deleteInfo _ (.inr enabled) rfl rfl (by decide)
        rw [runRxSm_again (setRxState_move .rxWaitForFrame (.inr enabled) leaves waits (by decide))
          rfl, runRxSm_again back rfl]
        exact @runRxSm_quiet _ (processWaitForFrame (deleteNeighbour port)) _ enabled rfl receives
          rfl nothing
      · next young =>
        exact @runRxSm_quiet _ _ (bound + 2) enabled waits receives (Bool.eq_false_iff.mpr young)
          nothing

theorem runRxSm_settles (rests : RxRest port) :
    runRxSm env (bound + 5) port = some (settleRx port) := by
  rw [settleRx]
  split
  · next asleep => exact @runRxSm_asleep _ _ (bound + 3) asleep
  · next wakes =>
    have awake : port.Awake := by
      simpa [LldpPort.Awake, or_iff_not_imp_left] using wakes
    rcases rests.state with state | state | state
    · simp only [state]
      by_cases aged : port.rx.rxInfoAge = true
      · rw [if_pos aged]
        exact runRxSm_aged aged state
      · have enabled := awake.resolve_left aged
        rw [if_neg aged, if_pos enabled]
        exact @runRxSm_start _ _ (bound + 2) enabled (Bool.eq_false_iff.mpr aged) state
    · have enabled : port.portEnabled = true := by
        cases off : port.portEnabled with
        | true => rfl
        | false =>
            have aged := awake.resolve_right (by simp [off])
            simp [rests.off aged off] at state
      simp only [state]
      exact @runRxSm_initial _ _ (bound + 3) enabled state (rests.initial state)
    · have enabled : port.portEnabled = true := by
        cases off : port.portEnabled with
        | true => rfl
        | false =>
            have aged := awake.resolve_right (by simp [off])
            simp [rests.off aged off] at state
      simp only [state]
      exact @runRxSm_waiting _ _ (bound + 2) enabled state rests

end Steps

end Tecs.Lldp
