import Tecs.Lldp.LldpTransmit

set_option autoImplicit false

/-! How long a port keeps what it has of its neighbour. -/

namespace Tecs.Lldp

open Tecs.Cdcp (UnpackedTlv)

section Definitions

/-- Nothing of a neighbour is stored. -/
def Forgot (port : LldpPort) : Prop := port.msap = ⟨none, none⟩ ∧ port.shown = []

/-- What is stored. -/
def LldpPort.kept (port : LldpPort) : Msap × List UnpackedTlv := (port.msap, port.shown)

/-- What is stored has time to live left, and the machine is where it can age. -/
structure Ageing (port : LldpPort) : Prop where
  left : 0 < port.timers.rxTTL
  young : port.rx.rxInfoAge = false
  state : port.rx.state = .rxWaitForFrame ∨
    port.rx.state = .lldpWaitPortOperational ∧ port.portEnabled = false

/-- What a number of calls without a frame have left, after so many ticks. -/
structure Ages (before after : LldpPort) (elapsed : ℕ) : Prop where
  known : Forgot after ∨ Ageing after ∧ after.kept = before.kept
  ttl : after.timers.rxTTL = before.timers.rxTTL - elapsed
  last : after.timers.lastrxTTL = before.timers.lastrxTTL

/-- Of what is stored, between two calls. -/
structure Held (port : LldpPort) : Prop where
  known : Forgot port ∨ Ageing port
  last : port.timers.rxTTL ≤ port.timers.lastrxTTL

/-- A call that leaves a port listening; the link may come up on a port where it is up. -/
def Listens (port : LldpPort) (event : Event) : Prop :=
  match event.call with
  | .timeout | .changed => True
  | .admin admin => admin.receives = true
  | .up => port.portEnabled = true
  | _ => False

def Call.isReceive : Call → Bool
  | .receive _ => true
  | _ => false

/-- What transmitting leaves alone. -/
def LldpPort.inbound (port : LldpPort) :
    (Msap × List UnpackedTlv) × RxState × Bool × Bool × PortAdminStatus × ℕ × ℕ :=
  (port.kept, port.rx.state, port.rx.rxInfoAge, port.portEnabled, port.adminStatus,
    port.timers.rxTTL, port.timers.lastrxTTL)

end Definitions

section Machine

variable {env : Surroundings} {port next : LldpPort}

theorem Forgot.congr (forgot : Forgot port) (same : next.kept = port.kept) : Forgot next := by
  simp only [LldpPort.kept, Prod.mk.injEq] at same
  exact ⟨same.1.trans forgot.1, same.2.trans forgot.2⟩

theorem startRx_forgot : Forgot (startRx port) := by
  rw [startRx]
  split
  · exact ⟨rfl, rfl⟩
  · exact ⟨rfl, rfl⟩

/-- The machine deletes what is stored, or leaves it where it still ages. -/
theorem settleRx_ageing (left : 0 < port.timers.rxTTL) (young : port.rx.rxInfoAge = false)
    (state : port.rx.state = .rxWaitForFrame ∨ port.rx.state = .lldpWaitPortOperational) :
    Forgot (settleRx port) ∨ Ageing (settleRx port) ∧ (settleRx port).kept = port.kept := by
  rw [settleRx]
  split
  · next off =>
    simp only [Bool.and_eq_true, Bool.not_eq_true'] at off
    exact .inr ⟨⟨left, young, .inr ⟨rfl, off.2⟩⟩, rfl⟩
  · next wakes =>
    have enabled : port.portEnabled = true := by simpa [young] using wakes
    rcases state with state | state
    · simp only [state, young]
      split
      · exact .inl ⟨rfl, rfl⟩
      · exact .inr ⟨⟨left, young, .inl state⟩, rfl⟩
    · simp only [state, young, enabled, Bool.false_eq_true, if_false, if_true]
      exact .inl startRx_forgot

/-- A port that goes on listening keeps what it has. -/
theorem settleRx_listens (ages : Ageing port)
    (listens : port.rx.state = .rxWaitForFrame → port.adminStatus.receives = true) :
    (settleRx port).kept = port.kept := by
  rw [settleRx]
  split
  · rfl
  · next wakes =>
    have enabled : port.portEnabled = true := by simpa [ages.young] using wakes
    rcases ages.state with state | ⟨-, off⟩
    · simp only [state, ages.young, listens state]
      rfl
    · exact absurd (off.symm.trans enabled) (by decide)

/-- What has aged is deleted. -/
theorem settleRx_aged (aged : port.rx.rxInfoAge = true)
    (state : port.rx.state = .rxWaitForFrame ∨ port.rx.state = .lldpWaitPortOperational) :
    Forgot (settleRx port) := by
  rw [settleRx]
  split
  · next off => simp [aged] at off
  · rcases state with state | state
    · simp only [state]
      split
      · exact ⟨rfl, rfl⟩
      · exact ⟨rfl, rfl⟩
    · simp only [state]
      split
      · exact startRx_forgot
      · exact ⟨rfl, rfl⟩

/-- Nothing is stored but by a frame. -/
theorem settleRx_forgot (forgot : Forgot port) : Forgot (settleRx port) := by
  rw [settleRx]
  split
  · exact forgot
  · split
    · dsimp only
      split
      · split
        · exact startRx_forgot
        · exact ⟨rfl, rfl⟩
      · split
        · exact startRx_forgot
        · exact forgot
    · split <;> exact forgot
    · split
      · exact ⟨rfl, rfl⟩
      · split
        · exact ⟨rfl, rfl⟩
        · exact forgot
    · exact forgot

theorem settleRx_timers : (settleRx port).timers = port.timers := by
  have same := congrArg LldpPort.timers (@settleRx_unheard port)
  exact same

/-- One second passes for what is stored. -/
theorem updateRxTimers_ages : (updateRxTimers port).timers.rxTTL = port.timers.rxTTL - 1 ∧
    (updateRxTimers port).timers.lastrxTTL = port.timers.lastrxTTL ∧
    (updateRxTimers port).kept = port.kept ∧
    (updateRxTimers port).rx.rxInfoAge =
      (port.rx.rxInfoAge || decide (port.timers.rxTTL = 1)) := by
  have many (port : LldpPort) : (ageTooMany port).timers.rxTTL = port.timers.rxTTL ∧
      (ageTooMany port).timers.lastrxTTL = port.timers.lastrxTTL ∧
      (ageTooMany port).kept = port.kept ∧
      (ageTooMany port).rx.rxInfoAge = port.rx.rxInfoAge := by
    rw [ageTooMany]
    split
    · exact ⟨rfl, rfl, rfl, rfl⟩
    · exact ⟨rfl, rfl, rfl, rfl⟩
  obtain ⟨ttl, last, kept, aged⟩ := many (ageNeighbour port)
  rw [updateRxTimers, ttl, last, kept, aged, ageNeighbour]
  split
  · next none => simp [none]
  · split
    · next expires =>
      exact ⟨by simp [expires], rfl, rfl, by simp [expires]⟩
    · next positive more => exact ⟨rfl, rfl, rfl, by simp [more]⟩

end Machine

section Calls

variable {env : Surroundings} {port next : LldpPort}

/-- What is stored, the state in which it ages, and its times to live. -/
def LldpPort.stored (port : LldpPort) : (Msap × List UnpackedTlv) × RxState × ℕ × ℕ :=
  (port.kept, port.rx.state, port.timers.rxTTL, port.timers.lastrxTTL)

theorem settleTx_inbound : (settleTx env port).1.inbound = port.inbound := by
  have same := congrArg LldpPort.inbound (@settleTx_unsent env port)
  exact same

theorem settleTimers_inbound : (settleTimers port).inbound = port.inbound := by
  have same := congrArg LldpPort.inbound (@settleTimers_untimed port)
  exact same

theorem Held.congr (held : Held port) (same : next.inbound = port.inbound) : Held next := by
  simp only [LldpPort.inbound, Prod.mk.injEq] at same
  obtain ⟨kept, state, aged, enabled, -, ttl, last⟩ := same
  refine ⟨held.known.imp (fun forgot => forgot.congr kept) fun ages => ?_, ?_⟩
  · exact ⟨ttl ▸ ages.left, aged ▸ ages.young, by rw [state, enabled]; exact ages.state⟩
  · rw [ttl, last]
    exact held.last

theorem Ageing.waits (ages : Ageing port) :
    port.rx.state = .rxWaitForFrame ∨ port.rx.state = .lldpWaitPortOperational :=
  ages.state.imp_right And.left

/-- The machines, after a change that is not to what is stored. -/
theorem settleSm_ages (held : Held port) (same : next.stored = port.stored)
    (young : port.rx.rxInfoAge = false → next.rx.rxInfoAge = false) :
    Ages port (settleSm env next).1 0 := by
  have inbound := @settleTx_inbound env next
  simp only [LldpPort.inbound, Prod.mk.injEq] at inbound
  simp only [LldpPort.stored, Prod.mk.injEq] at same
  obtain ⟨kept, state, ttl, last⟩ := same
  obtain ⟨kept', state', young', -, -, ttl', last'⟩ := inbound
  have known : Forgot (settleSm env next).1 ∨
      Ageing (settleSm env next).1 ∧ (settleSm env next).1.kept = port.kept := by
    rcases held.known with forgot | ages
    · exact .inl (settleRx_forgot (forgot.congr (kept'.trans kept)))
    · rw [settleSm, ← kept, ← kept']
      refine settleRx_ageing ?_ (young'.trans (young ages.young)) ?_
      · rw [ttl', ttl]
        exact ages.left
      · rw [state', state]
        exact ages.waits
  refine ⟨known, ?_, ?_⟩
  · rw [settleSm, settleRx_timers, ttl', ttl, Nat.sub_zero]
  · rw [settleSm, settleRx_timers, last', last]

theorem tickEffect_ages (held : Held port) : Ages port (tickEffect env port).1 1 := by
  have inbound := @settleTx_inbound env (settleTimers (updateTxTimers port))
  replace inbound := (inbound.trans settleTimers_inbound : _ = port.inbound)
  have ages := @updateRxTimers_ages (settleTx env (settleTimers (updateTxTimers port))).1
  have unaged := congrArg (fun port : LldpPort => port.rx.state)
    (@updateRxTimers_unaged (settleTx env (settleTimers (updateTxTimers port))).1)
  rw [tickEffect]
  generalize (settleTx env (settleTimers (updateTxTimers port))).1 = sent at inbound ages unaged
  change (updateRxTimers sent).rx.state = sent.rx.state at unaged
  have held' : Held sent := held.congr inbound
  simp only [LldpPort.inbound, Prod.mk.injEq] at inbound
  obtain ⟨kept, -, -, -, -, ttl, last⟩ := inbound
  obtain ⟨ttl', last', kept', young⟩ := ages
  have known : Forgot (settleRx (updateRxTimers sent)) ∨
      Ageing (settleRx (updateRxTimers sent)) ∧
        (settleRx (updateRxTimers sent)).kept = port.kept := by
    rcases held'.known with forgot | ages
    · exact .inl (settleRx_forgot (forgot.congr kept'))
    · have waits := ages.waits
      rw [← unaged] at waits
      rw [ages.young, Bool.false_or] at young
      by_cases expires : sent.timers.rxTTL = 1
      · exact .inl (settleRx_aged (young.trans (by simp [expires])) waits)
      · have more := ages.left
        rw [← kept, ← kept']
        exact settleRx_ageing (by omega) (young.trans (by simp [expires])) waits
  refine ⟨?_, ?_, ?_⟩
  · exact known.imp id fun ages => ⟨⟨ages.1.left, ages.1.young, ages.1.state⟩, ages.2⟩
  · have timers := @settleRx_timers (updateRxTimers sent)
    change (settleRx (updateRxTimers sent)).timers.rxTTL = _
    rw [timers, ttl', ttl]
  · have timers := @settleRx_timers (updateRxTimers sent)
    change (settleRx (updateRxTimers sent)).timers.lastrxTTL = _
    rw [timers, last', last]

theorem Ages.held {before : LldpPort} {elapsed : ℕ} (ages : Ages before port elapsed)
    (held : Held before) : Held port := by
  refine ⟨ages.known.imp id And.left, ?_⟩
  rw [ages.ttl, ages.last]
  exact (Nat.sub_le _ _).trans held.last

/-- Every call but a frame. -/
theorem effect_ages (held : Held port) (event : Event) (quiet : event.call.isReceive = false) :
    Ages port (event.effect port).1 (if event.call.isTimeout then 1 else 0) := by
  have stays : Ages port port 0 :=
    ⟨held.known.imp id fun ages => ⟨ages, rfl⟩, rfl, rfl⟩
  obtain ⟨env, call⟩ := event
  cases call with
  | timeout => exact tickEffect_ages held
  | receive frame => exact Bool.noConfusion quiet
  | admin admin =>
      simp only [Event.effect, adminEffect]
      split <;> split
      · exact ⟨stays.known.imp id fun ages => ⟨⟨ages.1.left, ages.1.young, ages.1.state⟩, rfl⟩,
          rfl, rfl⟩
      · exact settleSm_ages held rfl id
      · exact stays
      · exact settleSm_ages held rfl id
  | up =>
      obtain ⟨mand, ifup⟩ := @mandIfup_eq port
      simp only [Event.effect, upEffect, ifup]
      exact settleSm_ages held rfl id
  | down => exact settleSm_ages held rfl fun _ => rfl
  | changed =>
      exact ⟨stays.known.imp id fun ages => ⟨⟨ages.1.left, ages.1.young, ages.1.state⟩, rfl⟩,
        rfl, rfl⟩
  | mode agentMode =>
      simp only [Event.effect, modeEffect]
      split
      · exact stays
      · have forgot : Forgot (somethingChangedLocal (lldpReinitPort { port with agentMode })) :=
          ⟨rfl, rfl⟩
        have ages := @settleSm_ages env _
          (somethingChangedLocal (lldpReinitPort { port with agentMode }))
          ⟨.inl forgot, held.last⟩ rfl id
        refine ⟨.inl (ages.known.elim id fun known => forgot.congr known.2), ages.ttl, ages.last⟩
  | reinit => exact ⟨.inl ⟨rfl, rfl⟩, rfl, rfl⟩

/-- What a frame that was looked at leaves stored has time to live. -/
theorem finishRx_held (last : port.timers.rxTTL ≤ port.timers.lastrxTTL) :
    Held (finishRx port) := by
  rw [finishRx]
  split
  · next withdrawn => exact ⟨.inl ⟨rfl, rfl⟩, last⟩
  · next known => exact ⟨.inr ⟨Nat.pos_of_ne_zero known, rfl, .inl rfl⟩, last⟩

theorem SameTtl.le {before after : PortTimers} (same : SameTtl before after)
    (last : before.rxTTL ≤ before.lastrxTTL) : after.rxTTL ≤ after.lastrxTTL := by
  rcases same with ⟨ttl, kept⟩ | same
  · rw [ttl, kept]
    exact last
  · exact same.le

theorem receiveEffect_held (held : Held port) (frame : EthFrame) :
    Held (receiveEffect env frame port) := by
  rw [receiveEffect]
  split
  · exact held.congr rfl
  · split
    · refine ⟨held.known.imp id fun ages => ⟨?_, ages.young, ages.state⟩, le_rfl⟩
      exact ages.left.trans_le held.last
    · split
      · split
        · cases processed : rxProcessFrame env (port.arrival frame).looking with
          | none => exact held
          | some last =>
              have looked := rxProcessFrame_looked processed
              exact finishRx_held (looked.ttl.le held.last)
        · have arrived : Held (port.arrival frame) := held.congr rfl
          refine ⟨?_, ?_⟩
          · rcases arrived.known with forgot | ages
            · exact .inl (settleRx_forgot forgot)
            · exact (settleRx_ageing ages.left ages.young ages.waits).imp id And.left
          · rw [settleRx_timers]
            exact arrived.last
      · exact held.congr rfl

theorem effect_held (held : Held port) (event : Event) :
    Held (event.effect port).1 := by
  cases quiet : event.call.isReceive with
  | false => exact (effect_ages held event quiet).held held
  | true =>
      obtain ⟨env, call⟩ := event
      cases call with
      | receive frame => exact receiveEffect_held held frame
      | _ => exact Bool.noConfusion quiet

/-- A call that leaves the port listening leaves it what it has, unless that has aged. -/
theorem effect_listens (stable : Stable port) (ages : Ageing port) (event : Event)
    (listens : Listens port event) (more : 1 < port.timers.rxTTL ∨ event.call.isTimeout = false) :
    (event.effect port).1.kept = port.kept := by
  have hears (next : LldpPort) (same : next.inbound = port.inbound) :
      next.rx.state = .rxWaitForFrame → next.adminStatus.receives = true := by
    simp only [LldpPort.inbound, Prod.mk.injEq] at same
    obtain ⟨-, state, -, -, admin, -, -⟩ := same
    rw [state, admin]
    exact fun waits => (stable.waiting waits).2.1
  obtain ⟨env, call⟩ := event
  cases call with
  | timeout =>
      have inbound := @settleTx_inbound env (settleTimers (updateTxTimers port))
      replace inbound := (inbound.trans settleTimers_inbound : _ = port.inbound)
      change (settleRx (updateRxTimers _)).kept = _
      generalize (settleTx env (settleTimers (updateTxTimers port))).1 = sent at inbound ⊢
      have hears' := hears sent inbound
      obtain ⟨ttl', -, kept', young⟩ := @updateRxTimers_ages sent
      have state := congrArg (fun port : LldpPort => port.rx.state) (@updateRxTimers_unaged sent)
      have admin := congrArg LldpPort.adminStatus (@updateRxTimers_unaged sent)
      have enabled := congrArg LldpPort.portEnabled (@updateRxTimers_unaged sent)
      change (updateRxTimers sent).rx.state = sent.rx.state at state
      change (updateRxTimers sent).adminStatus = sent.adminStatus at admin
      change (updateRxTimers sent).portEnabled = sent.portEnabled at enabled
      simp only [LldpPort.inbound, Prod.mk.injEq] at inbound
      obtain ⟨kept, state', young', enabled', -, ttl, -⟩ := inbound
      have left : 1 < port.timers.rxTTL := more.resolve_right (fun no => Bool.noConfusion no)
      rw [settleRx_listens, kept', kept]
      · refine ⟨by omega, ?_, ?_⟩
        · rw [young, young', ages.young, ttl]
          simp [left.ne']
        · rw [state, state', enabled, enabled']
          exact ages.state
      · rw [state, admin]
        exact hears'
  | admin admin =>
      simp only [Event.effect, adminEffect]
      split <;> split
      · rfl
      · next off other => exact absurd listens (by simp [Listens, off, PortAdminStatus.receives])
      · rfl
      · have inbound := @settleTx_inbound env
          (somethingChangedLocal { port with adminStatus := admin })
        simp only [LldpPort.inbound, Prod.mk.injEq] at inbound
        obtain ⟨kept, state, young, enabled, receives, ttl, -⟩ := inbound
        change (settleRx (settleTx env _).1).kept = _
        rw [settleRx_listens, kept]
        · rfl
        · refine ⟨ttl.symm ▸ ages.left, young.trans ages.young, ?_⟩
          rw [state, enabled]
          exact ages.state
        · rw [receives]
          exact fun _ => listens
  | up =>
      obtain ⟨mand, ifup⟩ := @mandIfup_eq port
      have enabled : port.portEnabled = true := listens
      have inbound := @settleTx_inbound env { port with mand, portEnabled := true }
      simp only [LldpPort.inbound, Prod.mk.injEq] at inbound
      obtain ⟨kept, state, young, live, receives, ttl, -⟩ := inbound
      have waits : port.rx.state = .rxWaitForFrame :=
        ages.state.resolve_right fun off => Bool.noConfusion (enabled.symm.trans off.2)
      simp only [Event.effect, upEffect, ifup]
      change (settleRx (settleTx env _).1).kept = _
      rw [settleRx_listens, kept]
      · rfl
      · exact ⟨ttl.symm ▸ ages.left, young.trans ages.young, .inl (state.trans waits)⟩
      · rw [receives]
        exact fun _ => (stable.waiting waits).2.1
  | changed => rfl
  | _ => exact listens.elim

/-- The link stays as it is. -/
theorem effect_enabled (event : Event) (listens : Listens port event) :
    (event.effect port).1.portEnabled = port.portEnabled := by
  have settleSm_enabled {env : Surroundings} {port : LldpPort} :
      (settleSm env port).1.portEnabled = port.portEnabled := by
    have sent := congrArg LldpPort.portEnabled (@settleTx_unsent env port)
    have heard := congrArg LldpPort.portEnabled (@settleRx_unheard (settleTx env port).1)
    exact Eq.trans heard sent
  obtain ⟨env, call⟩ := event
  cases call with
  | timeout =>
      have timed := congrArg LldpPort.portEnabled (@settleTimers_untimed (updateTxTimers port))
      have sent := congrArg LldpPort.portEnabled
        (@settleTx_unsent env (settleTimers (updateTxTimers port)))
      have aged := congrArg LldpPort.portEnabled
        (@updateRxTimers_unaged (settleTx env (settleTimers (updateTxTimers port))).1)
      have heard := congrArg LldpPort.portEnabled
        (@settleRx_unheard (updateRxTimers (settleTx env (settleTimers (updateTxTimers port))).1))
      exact Eq.trans heard (Eq.trans aged (Eq.trans sent timed))
  | admin admin =>
      simp only [Event.effect, adminEffect]
      split <;> split
      · rfl
      · exact settleSm_enabled
      · rfl
      · exact settleSm_enabled
  | up =>
      obtain ⟨mand, ifup⟩ := @mandIfup_eq port
      simp only [Event.effect, upEffect, ifup]
      exact settleSm_enabled.trans (Eq.symm listens)
  | changed => rfl
  | _ => exact listens.elim

theorem Listens.congr {event : Event} (listens : Listens port event)
    (same : next.portEnabled = port.portEnabled) : Listens next event := by
  rw [Listens, same]
  exact listens

end Calls

section Runs

theorem Ages.trans {first second third : LldpPort} {elapsed elapsed' : ℕ}
    (before : Ages first second elapsed) (after : Ages second third elapsed') :
    Ages first third (elapsed + elapsed') := by
  refine ⟨?_, ?_, after.last.trans before.last⟩
  · rcases after.known with forgot | ⟨ages, same⟩
    · exact .inl forgot
    · rcases before.known with forgot | ⟨-, same'⟩
      · exact .inl (forgot.congr same)
      · exact .inr ⟨ages, same.trans same'⟩
  · rw [after.ttl, before.ttl, Nat.sub_sub]

theorem follow_held (events : List Event) : ∀ {port : LldpPort}, Held port →
    Held (follow events port).1 := by
  induction events with
  | nil => exact fun held => held
  | cons event rest ih => exact fun held => ih (effect_held held event)

theorem follow_ages (events : List Event) : ∀ {port : LldpPort}, Held port →
    (∀ event ∈ events, event.call.isReceive = false) →
      Ages port (follow events port).1 (ticks events) := by
  induction events with
  | nil => exact fun held _ => ⟨held.known.imp id fun ages => ⟨ages, rfl⟩, rfl, rfl⟩
  | cons event rest ih =>
      intro port held quiet
      have here := effect_ages held event (quiet event List.mem_cons_self)
      have later := ih (here.held held) fun event member => quiet event (.tail _ member)
      have counted : ticks (event :: rest) =
          ticks rest + if event.call.isTimeout then 1 else 0 := List.countP_cons
      rw [counted, Nat.add_comm]
      exact here.trans later

theorem follow_listens (events : List Event) : ∀ {port : LldpPort}, Stable port → Held port →
    (∀ event ∈ events, Listens port event) → ticks events < port.timers.rxTTL →
      (follow events port).1.kept = port.kept := by
  induction events with
  | nil => exact fun _ _ _ _ => rfl
  | cons event rest ih =>
      intro port stable held listens less
      have counted : ticks (event :: rest) =
          ticks rest + if event.call.isTimeout then 1 else 0 := List.countP_cons
      rw [counted] at less
      have quiet : event.call.isReceive = false := by
        have here := listens event List.mem_cons_self
        obtain ⟨env, call⟩ := event
        cases call with
        | receive frame => exact here.elim
        | _ => rfl
      have here := effect_ages held event quiet
      have later := ih (@apply_effect 0 _ stable event).2 (here.held held)
        (fun other member => (listens other (.tail _ member)).congr
          (effect_enabled event (listens event List.mem_cons_self))) (by rw [here.ttl]; omega)
      change (follow rest (event.effect port).1).1.kept = _
      rw [later]
      rcases held.known with forgot | ages
      · have forgot' : Forgot (event.effect port).1 :=
          here.known.elim id fun known => forgot.congr known.2
        simp only [LldpPort.kept, forgot.1, forgot.2, forgot'.1, forgot'.2]
      · refine effect_listens stable ages event (listens event List.mem_cons_self) ?_
        cases ticked : event.call.isTimeout with
        | false => exact .inr rfl
        | true =>
            rw [ticked, if_pos rfl] at less
            exact .inl (by omega)

theorem createLldpPort_held (name : List UInt8) (mac : Vector UInt8 6) (agentMode : AgentMode) :
    Held (createLldpPort name mac agentMode) :=
  ⟨.inl ⟨rfl, rfl⟩, le_rfl⟩

/-- What is stored of a neighbour is there for its time to live, and not a second longer, unless a
frame comes: nothing else renews it, and as long as the port listens nothing else deletes it. -/
theorem neighbour_ages (name : List UInt8) (mac : Vector UInt8 6) (agentMode : AgentMode)
    (more : ℕ) {before window : List Event} {port last : LldpPort}
    {sent sent' : List (List Transmission)}
    (ran : serve (more + 12) before (createLldpPort name mac agentMode) = some (port, sent))
    (ran' : serve (more + 12) window port = some (last, sent'))
    (quiet : ∀ event ∈ window, event.call.isReceive = false) :
    (¬ Forgot port → 0 < port.timers.rxTTL ∧ port.timers.rxTTL ≤ port.timers.lastrxTTL) ∧
      (¬ Forgot last → last.kept = port.kept ∧
        last.timers.rxTTL + ticks window = port.timers.rxTTL) ∧
      (port.timers.rxTTL ≤ ticks window → Forgot last) ∧
      ((∀ event ∈ window, Listens port event) → ticks window < port.timers.rxTTL →
        last.kept = port.kept) := by
  obtain ⟨followed, stable⟩ := serve_created ran
  have held := follow_held before (createLldpPort_held name mac agentMode)
  rw [followed] at held
  have followed' := (@serve_follow more window _ stable).1
  rw [ran', Option.some.injEq] at followed'
  have ages := follow_ages window held quiet
  have listens := follow_listens window stable held
  rw [← followed'] at ages listens
  have left (known : ¬ Forgot last) : 0 < last.timers.rxTTL ∧ last.kept = port.kept :=
    ⟨(ages.known.resolve_left known).1.left, (ages.known.resolve_left known).2⟩
  have ttl : last.timers.rxTTL = port.timers.rxTTL - ticks window := ages.ttl
  refine ⟨fun known => ⟨(held.known.resolve_left known).left, held.last⟩, fun known => ?_,
    fun long => ?_, listens⟩
  · obtain ⟨positive, same⟩ := left known
    exact ⟨same, by omega⟩
  · by_contra known
    have positive := (left known).1
    omega

/-- The frame of a neighbour, for two minutes. -/
def greeting : EthFrame where
  bytes := AgentMode.nearestBridge.dmac ++ [2, 0, 0, 0, 0, 2, 0x88, 0xcc, 2, 7, 4, 2, 0, 0, 0, 0, 2,
    4, 5, 5, 101, 116, 104, 49, 6, 2, 0, 120, 0, 0]
  header := by decide
  short := by decide

set_option maxRecDepth 8000 in
theorem neighbour_ages_greeting :
    let port := (follow [⟨plain, .up⟩, ⟨plain, .receive greeting⟩] eth0).1
    let last := (follow (List.replicate 120 ⟨plain, .timeout⟩) port).1
    port.timers.rxTTL = 120 ∧ ¬ Forgot port ∧ Forgot last := by
  have quiet : ∀ event ∈ List.replicate 120 (Event.mk plain .timeout),
      event.call.isReceive = false :=
    fun event member => by rw [List.eq_of_mem_replicate member]; rfl
  have ages := neighbour_ages _ _ _ 0
    (serve_runs [⟨plain, .up⟩, ⟨plain, .receive greeting⟩] eth0_stable)
    (serve_runs _ (follow_stable _ eth0_stable)) quiet
  have known : (follow [⟨plain, .up⟩, ⟨plain, .receive greeting⟩] eth0).1.timers.rxTTL = 120 ∧
      (follow [⟨plain, .up⟩, ⟨plain, .receive greeting⟩] eth0).1.msap.msap1 ≠ none :=
    ⟨rfl, Option.some_ne_none _⟩
  refine ⟨known.1, fun forgot => ?_, ages.2.2.1 (known.1.le.trans (by decide))⟩
  exact known.2 (congrArg Msap.msap1 forgot.1)

end Runs

end Tecs.Lldp
