import Tecs.Lldp.LldpPeriod

set_option autoImplicit false

/-! What follows the frame with which a port withdraws. -/

namespace Tecs.Lldp

section Definitions

/-- A port waits out the delay after its shutdown frame. -/
structure Delayed (port : LldpPort) : Prop where
  state : port.tx.state = .txShutdownFrame
  enabled : port.portEnabled = true
  waits : port.timers.txShutdownWhile ≠ 0

/-- A port that sends nothing before the next tick. -/
def Silent (port : LldpPort) : Prop := Delayed port ∨ port.tx.txNow = false

/-- A call that does not start the port anew. -/
def Stays (event : Event) : Prop :=
  match event.call with
  | .down | .mode _ | .reinit => False
  | _ => True

end Definitions

section Machine

variable {env : Surroundings} {port next : LldpPort}

theorem Delayed.outbound (delayed : Delayed port) (same : next.outbound = port.outbound) :
    Delayed next ∧ next.timers.txShutdownWhile = port.timers.txShutdownWhile := by
  have state := congrArg (fun seen => seen.1.state) same
  have waits := congrArg (fun seen => seen.2.1.txShutdownWhile) same
  have enabled := congrArg (fun seen => seen.2.2.1) same
  change next.tx.state = port.tx.state at state
  change next.timers.txShutdownWhile = port.timers.txShutdownWhile at waits
  change next.portEnabled = port.portEnabled at enabled
  exact ⟨⟨state.trans delayed.state, enabled.trans delayed.enabled, waits ▸ delayed.waits⟩, waits⟩

theorem Silent.outbound (silent : Silent port) (same : next.outbound = port.outbound) :
    Silent next := by
  refine silent.imp (fun delayed => (delayed.outbound same).1) fun quiet => ?_
  have now := congrArg (fun seen => seen.1.txNow) same
  exact Eq.trans now quiet

/-- As long as the delay lasts, the machine for the frames does nothing. -/
theorem settleTx_delayed (delayed : Delayed port) : settleTx env port = (port.seen, []) := by
  have state : port.seen.tx.state = .txShutdownFrame := delayed.state
  have waits : ¬ port.seen.timers.txShutdownWhile = 0 := delayed.waits
  rw [settleTx, if_pos delayed.enabled, settleEnabled]
  simp only [state, if_neg waits]

theorem settleTx_silent (silent : Silent port) :
    (settleTx env port).2.countP (·.isInfo) = 0 ∧ Silent (settleTx env port).1 := by
  rcases silent with delayed | quiet
  · rw [settleTx_delayed delayed]
    exact ⟨rfl, .inl ⟨delayed.state, delayed.enabled, delayed.waits⟩⟩
  · have sends := @settleTx_sends env port
    rcases sends.outcome with ⟨-, due, -⟩ | ⟨none, now, -⟩
    · exact absurd (due.symm.trans quiet) (by decide)
    · exact ⟨none, .inr (now.trans quiet)⟩

theorem settleSm_silent (silent : Silent port) :
    (settleSm env port).2.countP (·.isInfo) = 0 ∧ Silent (settleSm env port).1 := by
  obtain ⟨none, after⟩ := @settleTx_silent env port silent
  exact ⟨none, after.outbound settleRx_outbound⟩

theorem settleSm_delayed (delayed : Delayed port) : Delayed (settleSm env port).1 ∧
    (settleSm env port).1.timers.txShutdownWhile = port.timers.txShutdownWhile := by
  have same : (settleSm env port).1.outbound = port.outbound := by
    rw [settleSm, settleRx_outbound, settleTx_delayed delayed]
    rfl
  exact delayed.outbound same

/-- A shutdown frame starts the delay. -/
theorem settleTx_withdraws (configured : Configured port) {frame : List UInt8}
    (withdraws : Transmission.shutdown frame ∈ (settleTx env port).2) :
    Delayed (settleTx env port).1 ∧
      (settleTx env port).1.timers.txShutdownWhile = REINIT_DELAY := by
  have sendTx_withdraws (port : LldpPort) :
      Transmission.shutdown frame ∉ (sendTx env port).2 := by
    rw [sendTx]
    split
    · simp [processTxInfoFrame]
    · simp
  have startTx_withdraws (port : LldpPort) :
      Transmission.shutdown frame ∉ (startTx env port).2 := by
    rw [startTx]
    split
    · exact sendTx_withdraws _
    · simp
  rw [settleTx] at withdraws ⊢
  split
  · next enabled =>
    rw [if_pos enabled, settleEnabled] at withdraws
    rw [settleEnabled]
    split at withdraws
    · exact absurd withdraws (startTx_withdraws _)
    · next idle =>
      split at withdraws
      · exact absurd withdraws (sendTx_withdraws _)
      · next off =>
        rw [processTxShutdownFrame] at withdraws
        split at withdraws
        · next ended =>
          have delay : (processTxShutdownFrame env
              (port.seen.txGo .txShutdownFrame)).1.timers.txShutdownWhile = REINIT_DELAY := by
            rw [processTxShutdownFrame, if_pos ended]
            exact configured.reinitDelay
          have state := @processTxShutdownFrame_state env (port.seen.txGo .txShutdownFrame)
          have live : (processTxShutdownFrame env
              (port.seen.txGo .txShutdownFrame)).1.portEnabled = true := by
            rw [processTxShutdownFrame, if_pos ended]
            exact enabled
          simp only [if_neg off]
          refine ⟨⟨state, live, ?_⟩, delay⟩
          rw [delay]
          decide
        · simp at withdraws
    · split at withdraws
      · exact absurd withdraws (startTx_withdraws _)
      · simp at withdraws
    · simp at withdraws
  · next off =>
    rw [if_neg off] at withdraws
    split at withdraws <;> simp at withdraws

/-- The tick after the delay has started sends nothing. -/
theorem tickEffect_delayed (configured : Configured port) (delayed : Delayed port)
    (long : port.timers.txShutdownWhile = REINIT_DELAY) :
    (tickEffect env port).2.countP (·.isInfo) = 0 ∧ Silent (tickEffect env port).1 := by
  have silent : Silent (settleTimers (updateTxTimers port)) := by
    by_cases transmits : port.transmits = true
    · have ticked := settleTimers_ticked configured transmits
      have same := @settleTimers_untimed (updateTxTimers port)
      have state := congrArg (fun port : LldpPort => port.tx.state) same
      have enabled := congrArg LldpPort.portEnabled same
      refine .inl ⟨Eq.trans state delayed.state, Eq.trans enabled delayed.enabled, ?_⟩
      rw [ticked.waits]
      change port.timers.txShutdownWhile - 1 ≠ 0
      rw [long]
      decide
    · have off : ¬ (updateTxTimers port).transmits = true := transmits
      rw [settleTimers, if_neg off]
      split
      · refine .inl ⟨delayed.state, delayed.enabled, ?_⟩
        change port.timers.txShutdownWhile - 1 ≠ 0
        rw [long]
        decide
      · exact .inr rfl
  obtain ⟨none, after⟩ := @settleTx_silent env _ silent
  have aged := after.outbound (settleRx_outbound.trans updateRxTimers_outbound)
  exact ⟨none, aged.imp (fun delayed => ⟨delayed.state, delayed.enabled, delayed.waits⟩) id⟩

end Machine

section Calls

variable {port : LldpPort}

/-- A call between two ticks. -/
theorem effect_silent (silent : Silent port) (event : Event) (stays : Stays event)
    (between : event.call.isTimeout = false) :
    (event.effect port).2.countP (·.isInfo) = 0 ∧ Silent (event.effect port).1 := by
  obtain ⟨env, call⟩ := event
  have changed (next : LldpPort) (state : next.tx.state = port.tx.state)
      (enabled : port.portEnabled = true → next.portEnabled = true)
      (waits : next.timers = port.timers) (now : next.tx.txNow = port.tx.txNow) :
      Silent next := by
    refine silent.imp (fun delayed => ?_) now.trans
    exact ⟨state.trans delayed.state, enabled delayed.enabled, waits ▸ delayed.waits⟩
  cases call with
  | timeout => exact Bool.noConfusion between
  | receive frame => exact ⟨rfl, silent.outbound (receiveEffect_outbound frame)⟩
  | admin admin =>
      simp only [Event.effect, adminEffect]
      split <;> split
      · exact ⟨rfl, changed _ rfl id rfl rfl⟩
      · exact settleSm_silent (changed _ rfl id rfl rfl)
      · exact ⟨rfl, silent⟩
      · exact settleSm_silent (changed _ rfl id rfl rfl)
  | up =>
      obtain ⟨mand, ifup⟩ := @mandIfup_eq port
      simp only [Event.effect, upEffect, ifup]
      exact settleSm_silent (changed _ rfl (fun _ => rfl) rfl rfl)
  | changed => exact ⟨rfl, changed _ rfl id rfl rfl⟩
  | _ => exact stays.elim

theorem effect_delayed (delayed : Delayed port) (event : Event) (stays : Stays event)
    (between : event.call.isTimeout = false) : Delayed (event.effect port).1 ∧
      (event.effect port).1.timers.txShutdownWhile = port.timers.txShutdownWhile := by
  obtain ⟨env, call⟩ := event
  cases call with
  | timeout => exact Bool.noConfusion between
  | receive frame => exact delayed.outbound (receiveEffect_outbound frame)
  | admin admin =>
      simp only [Event.effect, adminEffect]
      split <;> split
      · exact ⟨⟨delayed.state, delayed.enabled, delayed.waits⟩, rfl⟩
      · exact @settleSm_delayed env (somethingChangedLocal
          { port with tx := { port.tx with txTTL := 0 }, adminStatus := admin })
          ⟨delayed.state, delayed.enabled, delayed.waits⟩
      · exact ⟨delayed, rfl⟩
      · exact @settleSm_delayed env (somethingChangedLocal { port with adminStatus := admin })
          ⟨delayed.state, delayed.enabled, delayed.waits⟩
  | up =>
      obtain ⟨mand, ifup⟩ := @mandIfup_eq port
      simp only [Event.effect, upEffect, ifup]
      exact @settleSm_delayed env { port with mand, portEnabled := true }
        ⟨delayed.state, rfl, delayed.waits⟩
  | changed => exact ⟨⟨delayed.state, delayed.enabled, delayed.waits⟩, rfl⟩
  | _ => exact stays.elim

/-- A call with a shutdown frame starts the delay. -/
theorem effect_withdraws (stable : Stable port) (event : Event) {frame : List UInt8}
    (withdraws : Transmission.shutdown frame ∈ (event.effect port).2) :
    Delayed (event.effect port).1 ∧
      (event.effect port).1.timers.txShutdownWhile = REINIT_DELAY := by
  have settled {env : Surroundings} {next : LldpPort} (configured : Configured next)
      (withdraws : Transmission.shutdown frame ∈ (settleSm env next).2) :
      Delayed (settleSm env next).1 ∧
        (settleSm env next).1.timers.txShutdownWhile = REINIT_DELAY := by
    obtain ⟨delayed, delay⟩ := settleTx_withdraws configured withdraws
    obtain ⟨delayed', same⟩ := delayed.outbound settleRx_outbound
    exact ⟨delayed', same.trans delay⟩
  obtain ⟨env, call⟩ := event
  cases call with
  | timeout =>
      have configured : Configured (settleTimers (updateTxTimers port)) := by
        exact @settleTimers_configured (updateTxTimers port) stable.configured
      obtain ⟨delayed, delay⟩ := settleTx_withdraws configured withdraws
      obtain ⟨delayed', same⟩ :=
        delayed.outbound (settleRx_outbound.trans updateRxTimers_outbound)
      exact ⟨⟨delayed'.state, delayed'.enabled, delayed'.waits⟩, same.trans delay⟩
  | receive frame => exact absurd withdraws List.not_mem_nil
  | admin admin =>
      simp only [Event.effect, adminEffect] at withdraws ⊢
      split at withdraws <;> split at withdraws
      · exact absurd withdraws List.not_mem_nil
      · next disabled other =>
        simp only [if_pos disabled, if_neg other]
        exact settled stable.configured withdraws
      · exact absurd withdraws List.not_mem_nil
      · next other new =>
        simp only [if_neg other, if_neg new]
        exact settled stable.configured withdraws
  | up =>
      obtain ⟨mand, ifup⟩ := @mandIfup_eq port
      simp only [Event.effect, upEffect, ifup] at withdraws ⊢
      exact settled stable.configured withdraws
  | down => exact settled stable.configured withdraws
  | changed => exact absurd withdraws List.not_mem_nil
  | mode agentMode =>
      simp only [Event.effect, modeEffect] at withdraws ⊢
      split at withdraws
      · exact absurd withdraws List.not_mem_nil
      · next other =>
        have fresh := @lldpReinitPort_fresh { port with agentMode } stable.configured
        rw [if_neg other]
        exact settled fresh.configured withdraws
  | reinit => exact absurd withdraws List.not_mem_nil

end Calls

section Runs

variable {port : LldpPort}

theorem follow_silent (events : List Event) : ∀ {port : LldpPort}, Silent port →
    (∀ event ∈ events, Stays event) → ticks events = 0 → infos (follow events port).2 = 0 := by
  induction events with
  | nil => exact fun _ _ _ => rfl
  | cons event rest ih =>
      intro port silent stays none
      have counted : ticks (event :: rest) =
          ticks rest + if event.call.isTimeout then 1 else 0 := List.countP_cons
      rw [counted] at none
      have between : event.call.isTimeout = false := by
        cases ticked : event.call.isTimeout with
        | false => rfl
        | true => simp [ticked] at none
      obtain ⟨here, silent'⟩ := effect_silent silent event (stays event List.mem_cons_self) between
      have later := ih silent' (fun event member => stays event (.tail _ member)) (by omega)
      have split : infos (follow (event :: rest) port).2 =
          (event.effect port).2.countP (·.isInfo) +
            infos (follow rest (event.effect port).1).2 := by
        simp [follow, infos, List.countP_append]
      omega

theorem follow_delayed (events : List Event) : ∀ {port : LldpPort}, Stable port → Delayed port →
    port.timers.txShutdownWhile = REINIT_DELAY → (∀ event ∈ events, Stays event) →
      ticks events ≤ 1 → infos (follow events port).2 = 0 := by
  induction events with
  | nil => exact fun _ _ _ _ _ => rfl
  | cons event rest ih =>
      intro port stable delayed long stays soon
      have counted : ticks (event :: rest) =
          ticks rest + if event.call.isTimeout then 1 else 0 := List.countP_cons
      rw [counted] at soon
      have split : infos (follow (event :: rest) port).2 =
          (event.effect port).2.countP (·.isInfo) +
            infos (follow rest (event.effect port).1).2 := by
        simp [follow, infos, List.countP_append]
      have stays' : ∀ event ∈ rest, Stays event := fun event member =>
        stays event (.tail _ member)
      rw [split]
      cases ticked : event.call.isTimeout with
      | false =>
          have here := (effect_silent (.inl delayed) event (stays event List.mem_cons_self)
            ticked).1
          obtain ⟨delayed', same⟩ :=
            effect_delayed delayed event (stays event List.mem_cons_self) ticked
          rw [ticked] at soon
          rw [here, Nat.zero_add]
          exact ih (@apply_effect 0 _ stable event).2 delayed' (same.trans long) stays' soon
      | true =>
          obtain ⟨env, call⟩ := event
          cases call with
          | timeout =>
              obtain ⟨here, silent⟩ := @tickEffect_delayed env _ stable.configured delayed long
              rw [ticked] at soon
              simp only [if_true] at soon
              have later := follow_silent rest silent stays' (by omega)
              exact Nat.add_eq_zero_iff.mpr ⟨here, later⟩
          | _ => exact Bool.noConfusion ticked

/-- After the frame with which a port withdraws, no information frame leaves it before the second
tick, also if it may transmit again at once, unless it is started anew. -/
theorem no_info_after_shutdown (name : List UInt8) (mac : Vector UInt8 6) (agentMode : AgentMode)
    (more : ℕ) {before window : List Event} {event : Event} {port next last : LldpPort}
    {sent sent' : List (List Transmission)} {out : List Transmission}
    {frame : List UInt8}
    (ran : serve (more + 12) before (createLldpPort name mac agentMode) = some (port, sent))
    (applied : event.apply (more + 12) port = some (next, out))
    (withdrew : Transmission.shutdown frame ∈ out)
    (ran' : serve (more + 12) window next = some (last, sent'))
    (stays : ∀ event ∈ window, Stays event) (soon : ticks window ≤ 1) : infos sent' = 0 := by
  obtain ⟨followed, stable⟩ := serve_created ran
  obtain ⟨applies, rests⟩ := @apply_effect more _ stable event
  rw [applied, Option.some.injEq] at applies
  rw [← applies] at rests
  have withdraws : Transmission.shutdown frame ∈ (event.effect port).2 := by
    rw [← applies]
    exact withdrew
  obtain ⟨delayed, long⟩ := effect_withdraws stable event withdraws
  rw [← applies] at delayed long
  have followed' := (@serve_follow more window _ rests).1
  rw [ran', Option.some.injEq] at followed'
  have silent := follow_delayed window rests delayed long stays soon
  rwa [← followed'] at silent

theorem no_info_after_shutdown_eth0 :
    let port := (follow [⟨plain, .up⟩, ⟨plain, .timeout⟩] eth0).1
    let next := ((Event.mk plain (.admin .disabled)).effect port).1
    infos (follow [⟨plain, .admin .enabledRxTx⟩, ⟨plain, .timeout⟩] next).2 = 0 := by
  have stable := follow_stable [⟨plain, .up⟩, ⟨plain, .timeout⟩] eth0_stable
  obtain ⟨applies, rests⟩ := @apply_effect 0 _ stable ⟨plain, .admin .disabled⟩
  have stays : ∀ event ∈ [Event.mk plain (.admin .enabledRxTx), ⟨plain, .timeout⟩],
      Stays event := by simp [Stays]
  have withdrew : Transmission.shutdown
      ([1, 128, 194, 0, 0, 14, 2, 0, 0, 0, 0, 1, 136, 204, 2, 7, 4, 2, 0, 0, 0, 0, 1, 4, 5, 5, 101,
        116, 104, 48, 6, 2, 0, 0, 0, 0] ++ List.replicate 24 0) ∈
      ((Event.mk plain (.admin .disabled)).effect
        (follow [⟨plain, .up⟩, ⟨plain, .timeout⟩] eth0).1).2 := by decide
  exact no_info_after_shutdown _ _ _ 0
    (serve_runs [⟨plain, .up⟩, ⟨plain, .timeout⟩] eth0_stable) applies withdrew
    (serve_runs _ rests) stays (by decide)

end Runs

end Tecs.Lldp
