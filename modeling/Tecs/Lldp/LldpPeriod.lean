import Tecs.Lldp.LldpTransmit

set_option autoImplicit false

/-! How long a port that transmits may be silent, and what it says before it stops. -/

namespace Tecs.Lldp

section Definitions

/-- What holds of the times of a port between two calls. -/
structure Timed (port : LldpPort) : Prop where
  ttr : port.timers.txTTR ≤ DEFAULT_TX_INTERVAL
  fresh : port.timers.state ≠ .txTimerIdle → port.timers.txTTR = 0
  waits : port.timers.txShutdownWhile ≤ REINIT_DELAY
  shut : port.tx.state = .txShutdownFrame → 0 < port.timers.txShutdownWhile
  due : port.tx.txNow = true → port.tx.state ≠ .txIdle

/-- The ticks until a port that transmits has sent a frame. -/
def silence (port : LldpPort) : ℕ :=
  max (if port.tx.txNow then 1 else max 1 port.timers.txTTR)
    (if port.tx.state = .txShutdownFrame then port.timers.txShutdownWhile else 1)

/-- The calls that leave a port transmitting. -/
def KeepsOn (event : Event) : Prop :=
  match event.call with
  | .down => False
  | .admin admin => admin.transmits = true
  | _ => True

def HasInfo (sent : List Transmission) : Prop := ∃ frame, Transmission.info frame ∈ sent

end Definitions

section Machine

variable {env : Surroundings} {port next : LldpPort}

theorem Credited.positive (credited : Credited port) : port.timers.txCredit > 0 := by
  rcases credited with full | ⟨paid, -⟩
  · rw [full]
    decide
  · rw [TX_CREDIT_MAX] at paid
    omega

/-- What the machine for the frames leaves of the state and the delay. -/
structure Settled (before after : LldpPort) : Prop where
  shut : after.tx.state = .txShutdownFrame → 0 < after.timers.txShutdownWhile
  waits : after.timers.txShutdownWhile ≤ max before.timers.txShutdownWhile REINIT_DELAY
  due : after.tx.txNow = true → after.tx.state ≠ .txIdle
  kept : after.tx.state = .txShutdownFrame → before.adminStatus.transmits = true →
    before.tx.state = .txShutdownFrame ∧
      after.timers.txShutdownWhile = before.timers.txShutdownWhile

theorem sendTx_settled (credited : Credited port) (idle : port.tx.state = .txIdle) :
    (sendTx env port).1.tx.state = .txIdle ∧ (sendTx env port).1.tx.txNow = false ∧
      (sendTx env port).1.timers.txShutdownWhile = port.timers.txShutdownWhile ∧
      (port.tx.txNow = true → HasInfo (sendTx env port).2) := by
  rw [sendTx]
  split
  · exact ⟨rfl, rfl, rfl, fun _ => ⟨_, List.mem_singleton.mpr rfl⟩⟩
  · next quiet =>
    have now : ¬ port.tx.txNow = true := fun due => quiet ⟨due, credited.positive⟩
    exact ⟨idle, Bool.eq_false_iff.mpr now, rfl, fun due => absurd due now⟩

theorem startTx_settled (credited : Credited port) (initial : port.tx.state = .txLldpInitialize) :
    (startTx env port).1.tx.state ≠ .txShutdownFrame ∧
      ((startTx env port).1.tx.txNow = true → (startTx env port).1.tx.state ≠ .txIdle) ∧
      (startTx env port).1.timers.txShutdownWhile = port.timers.txShutdownWhile ∧
      (port.adminStatus.transmits = true → port.tx.txNow = true →
        HasInfo (startTx env port).2) := by
  rw [startTx]
  split
  · obtain ⟨idle, silent, waits, sends⟩ := @sendTx_settled env (processTxIdle (port.txGo .txIdle))
      credited rfl
    refine ⟨by simp [idle], fun due => absurd (due.symm.trans silent) (by decide), waits, ?_⟩
    exact fun _ due => sends due
  · next deaf =>
    exact ⟨by simp [initial], fun _ => by simp [initial], rfl, fun on => absurd on deaf⟩

theorem processTxShutdownFrame_delay (configured : Configured port) :
    0 < (processTxShutdownFrame env port).1.timers.txShutdownWhile ∧
      (processTxShutdownFrame env port).1.timers.txShutdownWhile ≤
        max port.timers.txShutdownWhile REINIT_DELAY := by
  rw [processTxShutdownFrame]
  split
  · change 0 < port.timers.reinitDelay ∧ port.timers.reinitDelay ≤ _
    rw [configured.reinitDelay]
    exact ⟨by decide, le_max_right _ _⟩
  · next running => exact ⟨Nat.pos_of_ne_zero running, le_max_left _ _⟩

theorem settleEnabled_settled (configured : Configured port) (credited : Credited port) :
    Settled port (settleEnabled env port).1 ∧
      (port.adminStatus.transmits = true → port.tx.txNow = true →
        (port.tx.state = .txShutdownFrame → port.timers.txShutdownWhile = 0) →
        port.tx.state ≠ .txInfoFrame → HasInfo (settleEnabled env port).2) := by
  rw [settleEnabled]
  split
  · next initial =>
    obtain ⟨state, due, waits, sends⟩ := @startTx_settled env _ credited initial
    exact ⟨⟨fun shut => absurd shut state, waits.le.trans (le_max_left _ _), due,
      fun shut => absurd shut state⟩, fun on now _ _ => sends on now⟩
  · next idle =>
    split
    · obtain ⟨state, silent, waits, sends⟩ := @sendTx_settled env _ credited idle
      refine ⟨⟨fun shut => ?_, waits.le.trans (le_max_left _ _), fun due => ?_, fun shut => ?_⟩,
        fun _ now _ _ => sends now⟩
      · exact absurd (state.symm.trans shut) (by decide)
      · exact absurd (due.symm.trans silent) (by decide)
      · exact absurd (state.symm.trans shut) (by decide)
    · next off =>
      obtain ⟨positive, waits⟩ := @processTxShutdownFrame_delay env (port.txGo .txShutdownFrame)
        configured
      have state := @processTxShutdownFrame_state env (port.txGo .txShutdownFrame)
      refine ⟨⟨fun _ => positive, waits, fun _ => ?_, fun _ on => absurd on off⟩,
        fun on => absurd on off⟩
      rw [state]
      simp [LldpPort.txGo]
  · next shut =>
    split
    · obtain ⟨state, due, waits, sends⟩ := @startTx_settled env
        (txInitializeLLDP (port.txGo .txLldpInitialize)) credited rfl
      exact ⟨⟨fun shut => absurd shut state, waits.le.trans (le_max_left _ _), due,
        fun shut => absurd shut state⟩, fun on now _ _ => sends on now⟩
    · next running =>
      exact ⟨⟨fun _ => Nat.pos_of_ne_zero running, le_max_left _ _, fun _ => by simp [shut],
        fun _ _ => ⟨shut, rfl⟩⟩, fun _ _ elapsed => absurd (elapsed shut) running⟩
  · next info =>
    refine ⟨⟨fun shut => ?_, le_max_left _ _, fun _ => by simp [info], fun shut => ?_⟩,
      fun _ _ _ between => absurd info between⟩
    · exact absurd (info.symm.trans shut) (by decide)
    · exact absurd (info.symm.trans shut) (by decide)

theorem settleTx_settled (configured : Configured port) (credited : Credited port) :
    Settled port (settleTx env port).1 := by
  rw [settleTx]
  split
  · have settled := (@settleEnabled_settled env port.seen configured credited).1
    exact ⟨settled.shut, settled.waits, settled.due, settled.kept⟩
  · split
    · next initial =>
      refine ⟨fun shut => ?_, le_max_left _ _, fun _ => by simp [LldpPort.seen, initial],
        fun shut => ?_⟩
      · exact absurd (initial.symm.trans shut) (by decide)
      · exact absurd (initial.symm.trans shut) (by decide)
    · exact ⟨fun shut => TxState.noConfusion shut, le_max_left _ _,
        fun _ idle => TxState.noConfusion idle, fun shut => TxState.noConfusion shut⟩

/-- A frame that is due is sent by a port that transmits, unless a shutdown is not over. -/
theorem settleTx_hasInfo (configured : Configured port) (credited : Credited port)
    (transmits : port.transmits = true) (due : port.tx.txNow = true)
    (elapsed : port.tx.state = .txShutdownFrame → port.timers.txShutdownWhile = 0)
    (between : port.tx.state ≠ .txInfoFrame) : HasInfo (settleTx env port).2 := by
  have both := transmits
  simp only [LldpPort.transmits, Bool.and_eq_true] at both
  rw [settleTx, if_pos both.1]
  exact (@settleEnabled_settled _ port.seen configured credited).2 both.2 due elapsed between

end Machine

section Calls

variable {env : Surroundings} {port next : LldpPort}

/-- What holds of the times of a port before the machines move. -/
structure Timely (timers : PortTimers) : Prop where
  ttr : timers.txTTR ≤ DEFAULT_TX_INTERVAL
  fresh : timers.state ≠ .txTimerIdle → timers.txTTR = 0
  waits : timers.txShutdownWhile ≤ REINIT_DELAY

theorem Timed.timely (timed : Timed port) : Timely port.timers :=
  ⟨timed.ttr, timed.fresh, timed.waits⟩

theorem Timed.outbound (timed : Timed port) (same : next.outbound = port.outbound) :
    Timed next := by
  have tx := congrArg (fun seen => seen.1) same
  have ttr := congrArg (fun seen => seen.2.1.txTTR) same
  have state := congrArg (fun seen => seen.2.1.state) same
  have waits := congrArg (fun seen => seen.2.1.txShutdownWhile) same
  change next.tx = port.tx at tx
  change next.timers.txTTR = port.timers.txTTR at ttr
  change next.timers.state = port.timers.state at state
  change next.timers.txShutdownWhile = port.timers.txShutdownWhile at waits
  constructor
  · rw [ttr]
    exact timed.ttr
  · rw [ttr, state]
    exact timed.fresh
  · rw [waits]
    exact timed.waits
  · rw [tx, waits]
    exact timed.shut
  · rw [tx]
    exact timed.due

theorem silence_outbound (same : next.outbound = port.outbound) : silence next = silence port := by
  have tx := congrArg (fun seen => seen.1) same
  have ttr := congrArg (fun seen => seen.2.1.txTTR) same
  have waits := congrArg (fun seen => seen.2.1.txShutdownWhile) same
  change next.tx = port.tx at tx
  change next.timers.txTTR = port.timers.txTTR at ttr
  change next.timers.txShutdownWhile = port.timers.txShutdownWhile at waits
  rw [silence, silence, tx, ttr, waits]

theorem settleTx_timed (configured : Configured port) (credited : Credited port)
    (timely : Timely port.timers) : Timed (settleTx env port).1 := by
  have settled := @settleTx_settled env _ configured credited
  have ttr := (@settleTx_sends env port).ttr
  have state := @settleTx_timerState env port
  refine ⟨ttr.le.trans timely.ttr, ?_, ?_, settled.shut, settled.due⟩
  · rw [ttr, state]
    exact timely.fresh
  · exact settled.waits.trans (max_le timely.waits le_rfl)

theorem settleSm_timed (configured : Configured port) (credited : Credited port)
    (timely : Timely port.timers) : Timed (settleSm env port).1 :=
  (settleTx_timed configured credited timely).outbound settleRx_outbound

theorem settleTimers_ticked (configured : Configured port) (transmits : port.transmits = true) :
    Ticked (updateTxTimers port) (settleTimers (updateTxTimers port)) := by
  have on : (updateTxTimers port).transmits = true := transmits
  have ticked := @takeAll_ticked (txTimerChangeState .txTimerIdle (updateTxTimers port)) configured
    rfl
  rw [settleTimers, if_pos on]
  exact ⟨ticked.due, ticked.expired, ticked.now, ticked.credit, ticked.waits⟩

theorem settleTimers_timely (configured : Configured port) (timely : Timely port.timers) :
    Timely (settleTimers (updateTxTimers port)).timers := by
  by_cases transmits : port.transmits = true
  · have ticked := settleTimers_ticked configured transmits
    refine ⟨?_, fun started => ?_, ticked.waits.le.trans ((Nat.sub_le _ _).trans timely.waits)⟩
    · rcases ticked.now with ⟨-, -, ttr⟩ | ⟨-, ttr⟩
      · exact ttr
      · exact ttr.le.trans ((Nat.sub_le _ _).trans timely.ttr)
    · have on : (updateTxTimers port).transmits = true := transmits
      refine absurd ?_ started
      rw [settleTimers, if_pos on]
      exact takeAll_untimed.2.2
  · have off : ¬ (updateTxTimers port).transmits = true := transmits
    rw [settleTimers, if_neg off]
    split
    · exact ⟨(Nat.sub_le _ _).trans timely.ttr,
        fun started => by simp [updateTxTimers, timely.fresh started],
        (Nat.sub_le _ _).trans timely.waits⟩
    · exact ⟨Nat.zero_le _, fun _ => rfl, Nat.zero_le _⟩

theorem tickEffect_timed (stable : Stable port) (credited : Credited port) (timed : Timed port) :
    Timed (tickEffect env port).1 := by
  have configured : Configured (settleTimers (updateTxTimers port)) := by
    exact @settleTimers_configured (updateTxTimers port) stable.configured
  have due := settleTimers_credited stable.configured credited
  have after := @settleTx_timed env _ configured due
    (settleTimers_timely stable.configured timed.timely)
  have last := after.outbound (settleRx_outbound.trans updateRxTimers_outbound)
  exact ⟨last.ttr, last.fresh, last.waits, last.shut, last.due⟩

theorem effect_timed (stable : Stable port) (credited : Credited port) (timed : Timed port)
    (event : Event) : Timed (event.effect port).1 := by
  obtain ⟨env, call⟩ := event
  cases call with
  | timeout => exact tickEffect_timed stable credited timed
  | receive frame => exact timed.outbound (receiveEffect_outbound frame)
  | admin admin =>
      simp only [Event.effect, adminEffect]
      split <;> split
      · exact ⟨timed.ttr, timed.fresh, timed.waits, timed.shut, timed.due⟩
      · exact @settleSm_timed _ (somethingChangedLocal
          { port with tx := { port.tx with txTTL := 0 }, adminStatus := admin }) stable.configured
            credited timed.timely
      · exact timed
      · exact @settleSm_timed _ (somethingChangedLocal { port with adminStatus := admin })
          stable.configured credited timed.timely
  | up =>
      obtain ⟨mand, ifup⟩ := @mandIfup_eq port
      simp only [Event.effect, upEffect, ifup]
      exact @settleSm_timed _ { port with mand, portEnabled := true } stable.configured credited
        timed.timely
  | down =>
      exact @settleSm_timed _ { mandIfdown port with
        portEnabled := false
        tx := { port.tx with txTTL := 0 }
        rx := { port.rx with rxInfoAge := false } } stable.configured credited timed.timely
  | changed => exact ⟨timed.ttr, timed.fresh, timed.waits, timed.shut, timed.due⟩
  | mode agentMode =>
      simp only [Event.effect, modeEffect]
      split
      · exact timed
      · have fresh := @lldpReinitPort_fresh { port with agentMode } stable.configured
        exact @settleSm_timed _ (somethingChangedLocal (lldpReinitPort { port with agentMode }))
          fresh.configured (.inl rfl) ⟨Nat.zero_le _, fun _ => rfl, Nat.zero_le _⟩
  | reinit =>
      exact ⟨Nat.zero_le _, fun _ => rfl, Nat.zero_le _, fun shut => TxState.noConfusion shut,
        fun due => Bool.noConfusion due⟩

end Calls

section Silence

variable {env : Surroundings} {port next : LldpPort}

theorem one_le_silence : 1 ≤ silence port := by
  rw [silence]
  split <;> omega

/-- The machine for the frames does not make a port that transmits silent for longer. -/
theorem settleTx_silence (configured : Configured port) (credited : Credited port)
    (transmits : port.transmits = true)
    (shut : port.tx.state = .txShutdownFrame → 0 < port.timers.txShutdownWhile) :
    HasInfo (settleTx env port).2 ∨ silence (settleTx env port).1 ≤ silence port := by
  have both := transmits
  simp only [LldpPort.transmits, Bool.and_eq_true] at both
  have sends := @settleTx_sends env port
  have settled := @settleTx_settled env _ configured credited
  rcases sends.outcome with ⟨⟨frame, sent⟩, -⟩ | ⟨-, now, -⟩
  · exact .inl ⟨frame, sent ▸ List.mem_singleton.mpr rfl⟩
  · right
    rw [silence, silence, now, sends.ttr]
    apply max_le_max le_rfl
    split
    · next state =>
      obtain ⟨state', waits⟩ := settled.kept state both.2
      rw [if_pos state', waits]
    · split
      · next state => exact shut state
      · exact le_rfl

/-- A tick brings the next frame of a port that transmits nearer. -/
theorem tickEffect_silence (stable : Stable port) (credited : Credited port)
    (transmits : port.transmits = true) :
    HasInfo (tickEffect env port).2 ∨ silence (tickEffect env port).1 + 1 ≤ silence port := by
  have configured : Configured (settleTimers (updateTxTimers port)) := by
    exact @settleTimers_configured (updateTxTimers port) stable.configured
  have due := settleTimers_credited stable.configured credited
  have ticked := settleTimers_ticked stable.configured transmits
  have same := @settleTimers_untimed (updateTxTimers port)
  have state := congrArg (fun port : LldpPort => port.tx.state) same
  have enabled := congrArg LldpPort.transmits same
  change (settleTimers (updateTxTimers port)).tx.state = port.tx.state at state
  change (settleTimers (updateTxTimers port)).transmits = port.transmits at enabled
  have between : (settleTimers (updateTxTimers port)).tx.state ≠ .txInfoFrame := by
    rw [state]
    exact stable.between
  have after : silence (tickEffect env port).1 =
      silence (settleTx env (settleTimers (updateTxTimers port))).1 := by
    calc silence (tickEffect env port).1 = silence (settleRx (updateRxTimers
          (settleTx env (settleTimers (updateTxTimers port))).1)) := rfl
      _ = _ := silence_outbound (settleRx_outbound.trans updateRxTimers_outbound)
  have sends := @settleTx_sends env (settleTimers (updateTxTimers port))
  have settled := @settleTx_settled env _ configured due
  have on := enabled.trans transmits
  have both := on
  simp only [LldpPort.transmits, Bool.and_eq_true] at both
  have waits : (settleTimers (updateTxTimers port)).timers.txShutdownWhile =
      port.timers.txShutdownWhile - 1 := ticked.waits
  rcases sends.outcome with ⟨⟨frame, sent⟩, -⟩ | ⟨-, now, -⟩
  · exact .inl ⟨frame, (show (tickEffect env port).2 = _ from sent) ▸ List.mem_singleton.mpr rfl⟩
  · by_cases ready : (settleTimers (updateTxTimers port)).tx.txNow = true ∧
        (port.tx.state = .txShutdownFrame → port.timers.txShutdownWhile - 1 = 0)
    · left
      exact settleTx_hasInfo configured due on ready.1
        (by rw [state, waits]; exact ready.2) between
    · right
      -- What is left of the delay, if the port is still shutting down.
      have shut : (settleTx env (settleTimers (updateTxTimers port))).1.tx.state =
          .txShutdownFrame → port.tx.state = .txShutdownFrame ∧
            (settleTx env (settleTimers (updateTxTimers port))).1.timers.txShutdownWhile =
              port.timers.txShutdownWhile - 1 := by
        intro shut
        obtain ⟨state', waits'⟩ := settled.kept shut both.2
        exact ⟨state.symm.trans state', waits'.trans waits⟩
      rw [after, silence, silence, now, sends.ttr]
      cases still : (settleTimers (updateTxTimers port)).tx.txNow with
      | true =>
          have running := not_and.mp ready still
          push Not at running
          rw [if_pos rfl, if_pos running.1]
          split
          · next shutting =>
            rw [(shut shutting).2]
            omega
          · omega
      | false =>
          have idle : port.tx.txNow = false := by
            cases was : port.tx.txNow with
            | false => rfl
            | true => exact absurd ((ticked.due was).symm.trans still) (by decide)
          have left : port.timers.txTTR - 1 ≠ 0 := by
            intro elapsed
            exact absurd ((ticked.expired elapsed).symm.trans still) (by decide)
          have ttr : (settleTimers (updateTxTimers port)).timers.txTTR =
              port.timers.txTTR - 1 := by
            rcases ticked.now with ⟨due, -⟩ | ⟨-, ttr⟩
            · exact absurd (due.symm.trans still) (by decide)
            · exact ttr
          rw [idle, ttr]
          simp only [Bool.false_eq_true, if_false]
          split
          · next shutting =>
            obtain ⟨state', waits'⟩ := shut shutting
            rw [if_pos state', waits']
            omega
          · split <;> omega

theorem settleSm_transmits : (settleSm env port).1.transmits = port.transmits := by
  have sent := congrArg LldpPort.transmits (@settleTx_unsent env port)
  have heard := congrArg LldpPort.transmits
    (@settleRx_unheard (settleTx env port).1)
  exact Eq.trans heard sent

theorem settleSm_silence (configured : Configured port) (credited : Credited port)
    (transmits : port.transmits = true)
    (shut : port.tx.state = .txShutdownFrame → 0 < port.timers.txShutdownWhile) :
    (settleSm env port).1.transmits = true ∧
      (HasInfo (settleSm env port).2 ∨ silence (settleSm env port).1 ≤ silence port) := by
  refine ⟨settleSm_transmits.trans transmits, ?_⟩
  have sends := @settleTx_silence env _ configured credited transmits shut
  rwa [← silence_outbound (@settleRx_outbound (settleTx env port).1)] at sends

theorem tickEffect_transmits : (tickEffect env port).1.transmits = port.transmits := by
  have timed := congrArg LldpPort.transmits
    (@settleTimers_untimed (updateTxTimers port))
  have sent := congrArg LldpPort.transmits
    (@settleTx_unsent env (settleTimers (updateTxTimers port)))
  have aged := congrArg LldpPort.transmits
    (@updateRxTimers_unaged (settleTx env (settleTimers (updateTxTimers port))).1)
  have heard := congrArg LldpPort.transmits
    (@settleRx_unheard (updateRxTimers (settleTx env (settleTimers (updateTxTimers port))).1))
  exact Eq.trans heard (Eq.trans aged (Eq.trans sent timed))

/-- A port that starts anew has a frame to send at the next tick. -/
theorem silence_fresh (ttr : port.timers.txTTR = 0) (initial : port.tx.state = .txLldpInitialize) :
    silence port = 1 := by
  rw [silence, ttr, initial]
  split <;> rfl

/-- No call but a tick, which leaves the port transmitting, makes it silent for longer. -/
theorem effect_silence (stable : Stable port) (credited : Credited port) (timed : Timed port)
    (transmits : port.transmits = true) {event : Event} (keeps : KeepsOn event)
    (quiet : event.call.isTimeout = false) : (event.effect port).1.transmits = true ∧
      (HasInfo (event.effect port).2 ∨ silence (event.effect port).1 ≤ silence port) := by
  have both := transmits
  simp only [LldpPort.transmits, Bool.and_eq_true] at both
  obtain ⟨env, call⟩ := event
  cases call with
  | timeout => exact Bool.noConfusion quiet
  | receive frame =>
      have same := @receiveEffect_outbound env port frame
      have on := congrArg (fun seen => seen.2.2.1 && seen.2.2.2.transmits) same
      exact ⟨Eq.trans on transmits, .inr (silence_outbound same).le⟩
  | admin admin =>
      have on : admin.transmits = true := keeps
      simp only [Event.effect, adminEffect]
      split <;> split
      · exact ⟨transmits, .inr le_rfl⟩
      · exact @settleSm_silence _ (somethingChangedLocal
          { port with tx := { port.tx with txTTL := 0 }, adminStatus := admin }) stable.configured
            credited (Bool.and_eq_true_iff.mpr ⟨both.1, on⟩) timed.shut
      · exact ⟨transmits, .inr le_rfl⟩
      · exact @settleSm_silence _ (somethingChangedLocal { port with adminStatus := admin })
          stable.configured credited (Bool.and_eq_true_iff.mpr ⟨both.1, on⟩) timed.shut
  | up =>
      obtain ⟨mand, ifup⟩ := @mandIfup_eq port
      simp only [Event.effect, upEffect, ifup]
      exact @settleSm_silence _ { port with mand, portEnabled := true } stable.configured credited
        (Bool.and_eq_true_iff.mpr ⟨rfl, both.2⟩) timed.shut
  | down => exact absurd keeps id
  | changed => exact ⟨transmits, .inr le_rfl⟩
  | mode agentMode =>
      simp only [Event.effect, modeEffect]
      split
      · exact ⟨transmits, .inr le_rfl⟩
      · have fresh := @lldpReinitPort_fresh { port with agentMode } stable.configured
        obtain ⟨on, sends⟩ := @settleSm_silence env
          (somethingChangedLocal (lldpReinitPort { port with agentMode })) fresh.configured
          (.inl rfl) transmits (fun shut => TxState.noConfusion shut)
        refine ⟨on, sends.imp_right fun sooner => sooner.trans ?_⟩
        exact (silence_fresh rfl rfl).le.trans one_le_silence
  | reinit => exact ⟨transmits, .inr ((silence_fresh rfl rfl).le.trans one_le_silence)⟩

end Silence

section Runs

theorem HasInfo.counted {sent : List Transmission} (has : HasInfo sent) :
    1 ≤ sent.countP (·.isInfo) := by
  obtain ⟨frame, mem⟩ := has
  exact List.countP_pos_iff.mpr ⟨_, mem, rfl⟩

theorem infos_follow (event : Event) (rest : List Event) (port : LldpPort) :
    infos (follow (event :: rest) port).2 = (event.effect port).2.countP (·.isInfo) +
      infos (follow rest (event.effect port).1).2 := by
  simp [follow, infos, List.countP_append]

theorem follow_timed (events : List Event) : ∀ {port : LldpPort}, Stable port → Credited port →
    Timed port → Timed (follow events port).1 := by
  induction events with
  | nil => exact fun _ _ timed => timed
  | cons event rest ih =>
      intro port stable credited timed
      exact ih (@apply_effect 0 _ stable event).2 (effect_counts stable credited event).1
        (effect_timed stable credited timed event)

/-- As many ticks as a port may be silent for bring a frame. -/
theorem follow_silence (events : List Event) : ∀ {port : LldpPort}, Stable port →
    Credited port → Timed port → port.transmits = true → (∀ event ∈ events, KeepsOn event) →
    silence port ≤ ticks events → 1 ≤ infos (follow events port).2 := by
  induction events with
  | nil =>
      intro port _ _ _ _ _ long
      exact absurd (one_le_silence.trans long) (by simp [ticks])
  | cons event rest ih =>
      intro port stable credited timed transmits keeps long
      have rests := (@apply_effect 0 _ stable event).2
      have paid := (effect_counts stable credited event).1
      have timed' := effect_timed stable credited timed event
      have keeps' : ∀ event ∈ rest, KeepsOn event := fun e mem =>
        keeps e (List.mem_cons_of_mem _ mem)
      have counted : ticks (event :: rest) =
          ticks rest + if event.call.isTimeout then 1 else 0 := List.countP_cons
      rw [infos_follow]
      cases ticked : event.call.isTimeout with
      | true =>
          obtain ⟨env, call⟩ := event
          cases call with
          | timeout =>
              rcases @tickEffect_silence env _ stable credited transmits with
                has | sooner
              · exact has.counted.trans (Nat.le_add_right _ _)
              · have after := ih rests paid timed' (tickEffect_transmits.trans transmits) keeps'
                  (by rw [counted, ticked] at long; simp only [if_true] at long
                      exact Nat.le_of_succ_le_succ (sooner.trans long))
                exact after.trans (Nat.le_add_left _ _)
          | _ => exact Bool.noConfusion ticked
      | false =>
          obtain ⟨on, sends⟩ := effect_silence stable credited timed transmits
            (keeps event List.mem_cons_self) ticked
          rcases sends with has | sooner
          · exact has.counted.trans (Nat.le_add_right _ _)
          · rw [counted, ticked] at long
            exact (ih rests paid timed' on keeps' (sooner.trans long)).trans (Nat.le_add_left _ _)

theorem silence_le_interval {port : LldpPort} (timed : Timed port) :
    silence port ≤ DEFAULT_TX_INTERVAL := by
  have ttr := timed.ttr
  have waits := timed.waits
  simp only [DEFAULT_TX_INTERVAL, REINIT_DELAY] at *
  rw [silence]
  split <;> split <;> omega

variable {name : List UInt8} {mac : Vector UInt8 6} {agentMode : AgentMode}

theorem createLldpPort_timed : Timed (createLldpPort name mac agentMode) :=
  ⟨Nat.zero_le _, fun _ => rfl, Nat.zero_le _, fun shut => TxState.noConfusion shut,
    fun due => Bool.noConfusion due⟩

end Runs

end Tecs.Lldp
