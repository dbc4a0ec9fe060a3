import Tecs.Lldp.LldpSteps

set_option autoImplicit false

/-! How often a port transmits. -/

namespace Tecs.Lldp

section Definitions

def Transmission.isInfo : Transmission → Bool
  | .info _ => true
  | .shutdown _ => false

/-- The information frames among what a number of calls transmitted. -/
def infos (sent : List (List Transmission)) : ℕ := sent.flatten.countP (·.isInfo)

def Call.isTimeout : Call → Bool
  | .timeout => true
  | _ => false

def ticks (events : List Event) : ℕ := events.countP (·.call.isTimeout)

/-- There is a credit for a frame that is due. -/
def Credited (port : LldpPort) : Prop :=
  port.timers.txCredit = TX_CREDIT_MAX ∨
    port.timers.txCredit + 1 = TX_CREDIT_MAX ∧ port.tx.txNow = false

/-- A frame that is due. -/
def pending (port : LldpPort) : ℕ := if port.tx.txNow then 1 else 0

end Definitions

section Timers

variable {port next last : LldpPort}

/-- What the timers of a port that transmits may do: either a frame is due and the time to the next
one runs, or nothing has happened. -/
structure Signals (before after : LldpPort) : Prop where
  now : after.tx.txNow = true ∧ 0 < after.timers.txTTR ∧ after.timers.txTTR ≤ DEFAULT_TX_INTERVAL ∨
    after.tx.txNow = before.tx.txNow ∧ after.timers.txTTR = before.timers.txTTR
  credit : after.timers.txCredit = before.timers.txCredit
  waits : after.timers.txShutdownWhile = before.timers.txShutdownWhile
  tick : after.timers.txTick = before.timers.txTick

theorem Signals.refl (port : LldpPort) : Signals port port := ⟨.inr ⟨rfl, rfl⟩, rfl, rfl, rfl⟩

theorem Signals.trans (first : Signals port next) (second : Signals next last) :
    Signals port last := by
  refine ⟨?_, second.credit.trans first.credit, second.waits.trans first.waits,
    second.tick.trans first.tick⟩
  rcases second.now with due | ⟨now, ttr⟩
  · exact .inl due
  · rw [now, ttr]
    exact first.now

theorem Signals.monotone (signals : Signals port next) (due : port.tx.txNow = true) :
    next.tx.txNow = true := by
  rcases signals.now with ⟨now, -, -⟩ | ⟨now, -⟩
  · exact now
  · exact now.trans due

theorem expireTimer_signals (configured : Configured port) : Signals port (expireTimer port) := by
  have ttr : (expireTimer port).timers.txTTR =
      if port.tx.txFast - 1 ≠ 0 then port.timers.msgFastTx else port.timers.msgTxInterval := rfl
  refine ⟨.inl ⟨rfl, ?_, ?_⟩, rfl, rfl, rfl⟩
  · rw [ttr, configured.msgFastTx, configured.msgTxInterval]
    split <;> decide
  · rw [ttr, configured.msgFastTx, configured.msgTxInterval]
    split <;> decide

theorem takeChange_signals (configured : Configured port) : Signals port (takeChange port) := by
  rw [takeChange]
  split
  · have signals := @expireTimer_signals (processFastStart port) configured
    exact ⟨signals.now, signals.credit, signals.waits, signals.tick⟩
  · exact .refl port

theorem takeExpiry_signals (configured : Configured port) : Signals port (takeExpiry port) ∧
    (takeExpiry port).timers.txTTR ≠ 0 ∧
    (port.timers.txTTR = 0 → (takeExpiry port).tx.txNow = true) := by
  rw [takeExpiry]
  split
  · exact ⟨expireTimer_signals configured, expireTimer_txTTR configured, fun _ => rfl⟩
  · next running => exact ⟨.refl port, running, fun expired => absurd expired running⟩

theorem takeNeighbor_signals (configured : Configured port) : Signals port (takeNeighbor port) ∧
    (port.tx.txNow = true → (takeNeighbor port).tx.txNow = true) := by
  rw [takeNeighbor]
  split
  · have signals := @expireTimer_signals (processFastStart port) configured
    exact ⟨⟨signals.now, signals.credit, signals.waits, signals.tick⟩, fun _ => rfl⟩
  · exact ⟨.refl port, id⟩

/-- What a tick does to a port that transmits. -/
structure Ticked (before after : LldpPort) : Prop where
  due : before.tx.txNow = true → after.tx.txNow = true
  expired : before.timers.txTTR = 0 → after.tx.txNow = true
  now : after.tx.txNow = true ∧ 0 < after.timers.txTTR ∧ after.timers.txTTR ≤ DEFAULT_TX_INTERVAL ∨
    after.tx.txNow = before.tx.txNow ∧ after.timers.txTTR = before.timers.txTTR
  credit : after.timers.txCredit =
    if before.timers.txCredit < TX_CREDIT_MAX then before.timers.txCredit + 1
    else before.timers.txCredit
  waits : after.timers.txShutdownWhile = before.timers.txShutdownWhile

theorem takeAll_ticked (configured : Configured port) (ticked : port.timers.txTick = true) :
    Ticked port (takeAll port) := by
  have change := takeChange_signals configured
  have changed : Configured (takeChange port) := takeChange_untimed.2.1.trans configured
  obtain ⟨expiry, running, expires⟩ := takeExpiry_signals changed
  have expired : Configured (takeExpiry (takeChange port)) :=
    takeExpiry_untimed.2.1.trans changed
  obtain ⟨new, still⟩ := takeNeighbor_signals expired
  have known : Configured (takeNeighbor (takeExpiry (takeChange port))) :=
    takeNeighbor_untimed.2.1.trans expired
  have signals := (change.trans expiry).trans new
  have tick : takeAll port = processTick (takeNeighbor (takeExpiry (takeChange port))) := by
    rw [takeAll, takeTick, if_pos (signals.tick.trans ticked)]
  rw [tick]
  refine ⟨?_, ?_, signals.now, ?_, signals.waits⟩
  · exact fun due => signals.monotone due
  · intro elapsed
    apply still
    rcases change.now with ⟨due, -, -⟩ | ⟨-, ttr⟩
    · exact expiry.monotone due
    · exact expires (ttr.trans elapsed)
  · change (if _ < _ then _ else _) = _
    rw [known.txMaxCredit, signals.credit]

end Timers

section Frames

variable {env : Surroundings} {port : LldpPort}

/-- A port that may have sent an information frame, for which there was a credit. -/
structure Sends (before after : LldpPort) (sent : List Transmission) : Prop where
  ttr : after.timers.txTTR = before.timers.txTTR
  outcome : (∃ frame, sent = [.info frame]) ∧ before.tx.txNow = true ∧ after.tx.txNow = false ∧
      after.timers.txCredit + 1 = before.timers.txCredit ∨
    sent.countP (·.isInfo) = 0 ∧ after.tx.txNow = before.tx.txNow ∧
      after.timers.txCredit = before.timers.txCredit

theorem sendTx_sends : Sends port (sendTx env port).1 (sendTx env port).2 := by
  rw [sendTx]
  split
  · next due =>
    refine ⟨rfl, .inl ⟨⟨_, rfl⟩, due.1, rfl, ?_⟩⟩
    exact Nat.sub_add_cancel due.2
  · exact ⟨rfl, .inr ⟨rfl, rfl, rfl⟩⟩

theorem startTx_sends : Sends port (startTx env port).1 (startTx env port).2 := by
  rw [startTx]
  split
  · have sends := @sendTx_sends env (processTxIdle (port.txGo .txIdle))
    exact ⟨sends.ttr, sends.outcome⟩
  · exact ⟨rfl, .inr ⟨rfl, rfl, rfl⟩⟩

theorem processTxShutdownFrame_sends :
    Sends port (processTxShutdownFrame env port).1 (processTxShutdownFrame env port).2 := by
  rw [processTxShutdownFrame]
  split
  · refine ⟨rfl, .inr ⟨?_, rfl, rfl⟩⟩
    simp [Transmission.isInfo]
  · exact ⟨rfl, .inr ⟨rfl, rfl, rfl⟩⟩

theorem settleTx_sends : Sends port (settleTx env port).1 (settleTx env port).2 := by
  rw [settleTx]
  split
  · have seen : Sends port.seen (settleEnabled env port.seen).1
        (settleEnabled env port.seen).2 := by
      rw [settleEnabled]
      split
      · exact startTx_sends
      · split
        · exact sendTx_sends
        · have sends := @processTxShutdownFrame_sends env (port.seen.txGo .txShutdownFrame)
          exact ⟨sends.ttr, sends.outcome⟩
      · split
        · have sends := @startTx_sends env (txInitializeLLDP (port.seen.txGo .txLldpInitialize))
          exact ⟨sends.ttr, sends.outcome⟩
        · exact ⟨rfl, .inr ⟨rfl, rfl, rfl⟩⟩
      · exact ⟨rfl, .inr ⟨rfl, rfl, rfl⟩⟩
    exact ⟨seen.ttr, seen.outcome⟩
  · split
    · exact ⟨rfl, .inr ⟨rfl, rfl, rfl⟩⟩
    · exact ⟨rfl, .inr ⟨rfl, rfl, rfl⟩⟩

/-- What the machine for the frames leaves of the credit, and how many frames it sends. -/
theorem Sends.counts {before after : LldpPort} {sent : List Transmission}
    (sends : Sends before after sent) (credited : Credited before) :
    Credited after ∧ sent.countP (·.isInfo) + pending after = pending before := by
  rcases sends.outcome with ⟨⟨frame, rfl⟩, due, done, paid⟩ | ⟨none, now, credit⟩
  · refine ⟨.inr ⟨?_, done⟩, ?_⟩
    · rcases credited with full | ⟨-, idle⟩
      · rw [paid, full]
      · exact absurd (due.symm.trans idle) (by decide)
    · simp [pending, due, done, Transmission.isInfo]
  · refine ⟨?_, ?_⟩
    · rw [Credited, credit, now]
      exact credited
    · rw [none, pending, pending, now, Nat.zero_add]

end Frames

section Calls

variable {env : Surroundings} {port next : LldpPort}

/-- What receiving leaves alone. -/
def LldpPort.outbound (port : LldpPort) : PortTx × PortTimers × Bool × PortAdminStatus :=
  (port.tx, { port.timers with tooManyNghbrsTimer := 0, rxTTL := 0, lastrxTTL := 0 },
    port.portEnabled, port.adminStatus)

theorem settleRx_outbound : (settleRx port).outbound = port.outbound := by
  have same := congrArg LldpPort.outbound (@settleRx_unheard port)
  exact same

theorem receiveEffect_outbound (frame : EthFrame) :
    (receiveEffect env frame port).outbound = port.outbound := by
  rw [receiveEffect]
  split
  · rfl
  · split
    · rfl
    · split
      · split
        · cases processed : rxProcessFrame env (port.arrival frame).looking with
          | none => rfl
          | some last =>
              have looked := rxProcessFrame_looked processed
              have same := congrArg LldpPort.outbound (@finishRx_unheard last)
              exact Eq.trans same (looked.congr LldpPort.outbound (fun _ => rfl) rfl)
        · exact settleRx_outbound
      · rfl

theorem Credited.outbound (credited : Credited port) (same : next.outbound = port.outbound) :
    Credited next ∧ pending next = pending port := by
  have now := congrArg (fun seen => seen.1.txNow) same
  have credit := congrArg (fun seen => seen.2.1.txCredit) same
  change next.tx.txNow = port.tx.txNow at now
  change next.timers.txCredit = port.timers.txCredit at credit
  refine ⟨?_, by rw [pending, pending, now]⟩
  rw [Credited, now, credit]
  exact credited

theorem settleSm_counts (credited : Credited port) : Credited (settleSm env port).1 ∧
    (settleSm env port).2.countP (·.isInfo) + pending (settleSm env port).1 = pending port := by
  obtain ⟨paid, sent⟩ := (@settleTx_sends env _).counts credited
  obtain ⟨paid', now⟩ := paid.outbound settleRx_outbound
  exact ⟨paid', by rw [← sent, settleSm, now]⟩

/-- After the timers have run, there is a credit for the frame that is due, if one is. -/
theorem settleTimers_credited (configured : Configured port) (credited : Credited port) :
    Credited (settleTimers (updateTxTimers port)) := by
  rw [settleTimers]
  split
  · have ticked := @takeAll_ticked (txTimerChangeState .txTimerIdle (updateTxTimers port))
      configured rfl
    have credit := ticked.credit
    left
    refine credit.trans ?_
    change (if port.timers.txCredit < TX_CREDIT_MAX then port.timers.txCredit + 1
      else port.timers.txCredit) = TX_CREDIT_MAX
    rcases credited with full | ⟨paid, -⟩
    · rw [full, if_neg (Nat.lt_irrefl _)]
    · rw [if_pos (by omega), paid]
  · split
    · exact credited
    · exact .inl rfl

/-- What ageing leaves alone. -/
theorem updateRxTimers_outbound : (updateRxTimers port).outbound = port.outbound := by
  have same := congrArg LldpPort.outbound (@updateRxTimers_unaged port)
  exact same

theorem tickEffect_counts (configured : Configured port) (credited : Credited port) :
    Credited (tickEffect env port).1 ∧
      (tickEffect env port).2.countP (·.isInfo) + pending (tickEffect env port).1 ≤ 1 := by
  have due := settleTimers_credited configured credited
  obtain ⟨paid, sent⟩ := (@settleTx_sends env _).counts due
  obtain ⟨paid', now⟩ := paid.outbound (settleRx_outbound.trans updateRxTimers_outbound)
  have most : pending (settleTimers (updateTxTimers port)) ≤ 1 := by
    rw [pending]
    split <;> omega
  exact ⟨paid', (congrArg _ now).trans_le (sent.trans_le most)⟩

theorem effect_counts (stable : Stable port) (credited : Credited port) (event : Event) :
    Credited (event.effect port).1 ∧
      (event.effect port).2.countP (·.isInfo) + pending (event.effect port).1 ≤
        pending port + if event.call.isTimeout then 1 else 0 := by
  obtain ⟨env, call⟩ := event
  cases call with
  | timeout =>
      obtain ⟨paid, sent⟩ := @tickEffect_counts env _ stable.configured credited
      exact ⟨paid, sent.trans (Nat.le_add_left _ _)⟩
  | receive frame =>
      obtain ⟨paid, now⟩ := credited.outbound (@receiveEffect_outbound env _ frame)
      exact ⟨paid, by simp [Event.effect, now]⟩
  | admin admin =>
      simp only [Event.effect, adminEffect]
      split <;> split
      · exact ⟨credited, by simp [pending]⟩
      · obtain ⟨paid, sent⟩ := @settleSm_counts env (somethingChangedLocal
          { port with tx := { port.tx with txTTL := 0 }, adminStatus := admin }) credited
        exact ⟨paid, sent.le.trans (Nat.le_add_right _ _)⟩
      · exact ⟨credited, by simp [pending]⟩
      · obtain ⟨paid, sent⟩ := @settleSm_counts env (somethingChangedLocal
          { port with adminStatus := admin }) credited
        exact ⟨paid, sent.le.trans (Nat.le_add_right _ _)⟩
  | up =>
      obtain ⟨mand, ifup⟩ := @mandIfup_eq port
      obtain ⟨paid, sent⟩ := @settleSm_counts env { port with mand, portEnabled := true } credited
      simp only [Event.effect, upEffect, ifup]
      exact ⟨paid, sent.le.trans (Nat.le_add_right _ _)⟩
  | down =>
      obtain ⟨paid, sent⟩ := @settleSm_counts env { mandIfdown port with
        portEnabled := false
        tx := { port.tx with txTTL := 0 }
        rx := { port.rx with rxInfoAge := false } } credited
      exact ⟨paid, sent.le.trans (Nat.le_add_right _ _)⟩
  | changed => exact ⟨credited, (Nat.zero_add (pending port)).le.trans (Nat.le_add_right _ _)⟩
  | mode agentMode =>
      simp only [Event.effect, modeEffect]
      split
      · exact ⟨credited, by simp⟩
      · obtain ⟨paid, sent⟩ := @settleSm_counts env (somethingChangedLocal
          (lldpReinitPort { port with agentMode })) (.inl rfl)
        exact ⟨paid, sent.le.trans (Nat.zero_le _)⟩
  | reinit => exact ⟨.inl rfl, Nat.zero_le _⟩

theorem follow_counts (events : List Event) : ∀ {port : LldpPort}, Stable port → Credited port →
    Credited (follow events port).1 ∧
      infos (follow events port).2 + pending (follow events port).1 ≤
        pending port + ticks events := by
  induction events with
  | nil => exact fun _ credited => ⟨credited, by simp [follow, infos, ticks]⟩
  | cons event rest ih =>
      intro port stable credited
      have rests := (@apply_effect 0 _ stable event).2
      obtain ⟨paid, sent⟩ := effect_counts stable credited event
      obtain ⟨paid', sent'⟩ := ih rests paid
      refine ⟨paid', ?_⟩
      have split : infos (follow (event :: rest) port).2 =
          (event.effect port).2.countP (·.isInfo) +
            infos (follow rest (event.effect port).1).2 := by
        simp [follow, infos, List.countP_append]
      have counted : ticks (event :: rest) =
          ticks rest + if event.call.isTimeout then 1 else 0 := List.countP_cons
      rw [split, counted]
      change _ + pending (follow rest (event.effect port).1).1 ≤ _
      omega

end Calls

section Runs

variable {name : List UInt8} {mac : Vector UInt8 6} {agentMode : AgentMode}

/-- What a run from the creation of a port comes to. -/
theorem serve_created {more : ℕ} {events : List Event}
    {done : LldpPort × List (List Transmission)}
    (ran : serve (more + 12) events (createLldpPort name mac agentMode) = some done) :
    follow events (createLldpPort name mac agentMode) = done ∧ Stable done.1 := by
  obtain ⟨served, rests⟩ := @serve_follow more events _ (createLldpPort_stable name mac agentMode)
  rw [served, Option.some.injEq] at ran
  exact ⟨ran, ran ▸ rests⟩

/-- No more information frames than ticks, in a run from the creation of a port, and but one more in
any part of it; and there is always a credit for the frame that is due. -/
theorem infos_le_ticks (name : List UInt8) (mac : Vector UInt8 6) (agentMode : AgentMode)
    (more : ℕ) {before window : List Event} {port last : LldpPort}
    {sent sent' : List (List Transmission)}
    (ran : serve (more + 12) before (createLldpPort name mac agentMode) = some (port, sent))
    (ran' : serve (more + 12) window port = some (last, sent')) :
    infos sent ≤ ticks before ∧ infos sent' ≤ ticks window + 1 ∧
      TX_CREDIT_MAX ≤ port.timers.txCredit + 1 ∧
      (port.tx.txNow = true → port.timers.txCredit = TX_CREDIT_MAX) := by
  obtain ⟨followed, stable⟩ := serve_created ran
  obtain ⟨credited, counted⟩ := follow_counts before (createLldpPort_stable name mac agentMode)
    (.inl rfl)
  rw [followed] at credited counted
  obtain ⟨-, counted'⟩ := follow_counts window stable credited
  have followed' := (@serve_follow more window _ stable).1
  rw [ran', Option.some.injEq] at followed'
  rw [← followed'] at counted'
  have initial : pending (createLldpPort name mac agentMode) = 0 := rfl
  have most : pending port ≤ 1 := by
    rw [pending]
    split <;> omega
  dsimp only at counted counted'
  refine ⟨by omega, by omega, ?_, ?_⟩
  · rcases credited with full | ⟨paid, -⟩
    · exact full ▸ Nat.le_succ _
    · exact paid.ge
  · intro due
    rcases credited with full | ⟨-, idle⟩
    · exact full
    · exact absurd (due.symm.trans idle) (by decide)

theorem infos_le_ticks_eth0 :
    let switched := follow [⟨plain, .up⟩] eth0
    let ticked := follow [⟨plain, .timeout⟩] switched.1
    infos switched.2 ≤ 0 ∧ infos ticked.2 ≤ 1 + 1 ∧
      TX_CREDIT_MAX ≤ switched.1.timers.txCredit + 1 ∧
      (switched.1.tx.txNow = true → switched.1.timers.txCredit = TX_CREDIT_MAX) :=
  infos_le_ticks _ _ _ 0 (serve_runs _ eth0_stable)
    (serve_runs _ (follow_stable _ eth0_stable))

end Runs

end Tecs.Lldp
