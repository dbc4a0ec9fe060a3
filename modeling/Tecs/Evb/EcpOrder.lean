import Tecs.Evb.Ecp
import Tecs.Library.Run

set_option autoImplicit false

/-! The order in which a port transmits and hands over. -/

namespace Tecs.Ecp

open Transition

/-- A port and what went through it. Entries are numbered in the order of their insertions. -/
structure Port where
  ecp : TagEcp
  inserted : ℕ
  received : ℕ
  transmitted : List ℕ
  handed : List ℕ
deriving Repr, DecidableEq

def Port.init (attr : PortAttr) : Port := ⟨ecpPortInit attr, 0, 0, [], []⟩

inductive Call
  | txInsert (pIn : Ecpdu)
  | receive (frame : Frame)
  | tick
  | chg (chgR chgRTE : Bool)

def Port.tick (attr : PortAttr) (port : Port) : Port :=
  let (ecp, sent) := ecpTxLoopTimerHandler attr port.ecp
  let (ecp, handed) := ecpRxLoopTimerHandler attr ecp
  { port with
    ecp
    transmitted := port.transmitted ++ sent.map (·.1)
    handed := port.handed ++ handed.map (·.1) }

def Port.call (attr : PortAttr) (port : Port) : Call → Port
  | .txInsert pIn =>
      { port with
        ecp := listEcpULPDUtxInsert attr port.inserted pIn port.ecp
        inserted := port.inserted + 1 }
  | .receive frame =>
      { port with
        ecp := (ecpRxReceiveFrame attr port.received frame port.ecp).1
        received := port.received + 1 }
  | .tick => port.tick attr
  | .chg chgR chgRTE => { port with ecp := evbtlvChgSetEcp attr chgR chgRTE port.ecp }

/-- Each call finds its own attributes of the port. -/
def Step (port : Port) (label : PortAttr × Call) (next : Port) : Prop :=
  next = port.call label.1 label.2

/-- The first transmission of an earlier entry comes before that of a later one. -/
def FirstInOrder (transmitted : List ℕ) : Prop :=
  ∀ g ∈ transmitted, ∀ h ∈ transmitted, g < h → transmitted.idxOf g < transmitted.idxOf h

/-- A stop-and-wait step. -/
structure InOrder (port next : Port) : Prop where
  order : FirstInOrder next.transmitted
  alone : ∀ h ∈ next.transmitted, h ∉ port.transmitted →
    ∀ e ∈ port.ecp.lstEcpULPDUtx, e.tag < h → e.txState ≠ .transmitEcpdu
  handed : next.handed.Pairwise (· < ·)

/-- What is inserted finds nothing before it that is still to be worked on. -/
def Free (port : Port) : PortAttr × Call → Prop
  | (_, .txInsert _) => ∀ e ∈ port.ecp.lstEcpULPDUtx, e.txState = .waitForReq
  | (_, .receive frame) => frame.requestForVdp = true →
      ∀ e ∈ port.ecp.lstEcpULPDUrx, e.ecpdu.forVdp = false
  | (_, .tick) => True
  | (_, .chg _ _) => True

instance (port : Port) : DecidablePred (Free port)
  | (_, .txInsert _) => inferInstanceAs (Decidable (∀ _ ∈ _, _))
  | (_, .receive _) => inferInstanceAs (Decidable (_ → _))
  | (_, .tick) => inferInstanceAs (Decidable True)
  | (_, .chg _ _) => inferInstanceAs (Decidable True)

section Tx

variable {transmitted : List ℕ} {list list' : List TagEcpULPDU} {inserted : ℕ}

/-- Only the first entry is still to be worked on, and it is later than all that was sent. -/
structure TxCalm (inserted : ℕ) (transmitted : List ℕ) (list : List TagEcpULPDU) : Prop where
  done : ∀ e ∈ list.tail, e.txState = .waitForReq
  known : ∀ e ∈ list, e.txState ≠ .idle → e.tag ∈ transmitted
  latest : ∀ e ∈ list, e.txState = .idle → ∀ g ∈ transmitted, g < e.tag
  fresh : ∀ e ∈ list, e.tag < inserted

theorem TxCalm.sublist (calm : TxCalm inserted transmitted list) (part : list'.Sublist list) :
    TxCalm inserted transmitted list' where
  done e mem := calm.done e (part.tail.mem mem)
  known e mem := calm.known e (part.mem mem)
  latest e mem := calm.latest e (part.mem mem)
  fresh e mem := calm.fresh e (part.mem mem)

/-- An entry as it was, but that its acknowledgement may have come. -/
def Acked (e e' : TagEcpULPDU) : Prop :=
  e'.tag = e.tag ∧
    (e'.txState = e.txState ∨ e.txState = .transmitEcpdu ∧ e'.txState = .waitForReq)

theorem acked_refl (e : TagEcpULPDU) : Acked e e := ⟨rfl, .inl rfl⟩

theorem origin {R : TagEcpULPDU → TagEcpULPDU → Prop} (follow : List.Forall₂ R list list')
    {e' : TagEcpULPDU} (mem : e' ∈ list') : ∃ e ∈ list, R e e' := by
  induction follow with
  | nil => cases mem
  | cons related _ ih =>
      cases mem with
      | head => exact ⟨_, List.mem_cons_self .., related⟩
      | tail _ mem =>
          have ⟨e, memE, relatedE⟩ := ih mem
          exact ⟨e, List.mem_cons_of_mem _ memE, relatedE⟩

theorem TxCalm.acked (calm : TxCalm inserted transmitted list)
    (follow : List.Forall₂ Acked list list') : TxCalm inserted transmitted list' where
  done e' mem := by
    rw [← List.drop_one] at mem
    have ⟨e, memE, _, state⟩ := origin (List.forall₂_drop 1 follow) mem
    rw [List.drop_one] at memE
    have done := calm.done e memE
    rcases state with same | ⟨wait, _⟩
    · rw [same, done]
    · rw [done] at wait
      cases wait
  known e' mem busy := by
    have ⟨e, memE, tag, state⟩ := origin follow mem
    rw [tag]
    refine calm.known e memE fun idle => busy ?_
    rcases state with same | ⟨wait, _⟩
    · rw [same, idle]
    · rw [idle] at wait
      cases wait
  latest e' mem idle := by
    have ⟨e, memE, tag, state⟩ := origin follow mem
    rw [tag]
    refine calm.latest e memE ?_
    rcases state with same | ⟨_, wait⟩
    · rw [← same, idle]
    · rw [idle] at wait
      cases wait
  fresh e' mem := by
    have ⟨e, memE, tag, _⟩ := origin follow mem
    rw [tag]
    exact calm.fresh e memE

/-- What one tick makes of the first entry: it is transmitted once, or it stays idle if it was. -/
structure Moved (e e' : TagEcpULPDU) (sent : List Frame) : Prop where
  tag : e'.tag = e.tag
  cases : (sent = [] ∧ (e'.txState = .idle ↔ e.txState = .idle)) ∨
    ((∃ f, sent = [f]) ∧ e'.txState ≠ .idle)

theorem TxCalm.moved {e e' : TagEcpULPDU} {rest : List TagEcpULPDU} {sent : List Frame}
    (calm : TxCalm inserted transmitted (e :: rest)) (moved : Moved e e' sent) :
    TxCalm inserted (transmitted ++ sent.map fun _ => e.tag) (e' :: rest) := by
  have done := calm.done
  have busy : ∀ r ∈ rest, r.txState ≠ .idle := by
    intro r mem idle
    rw [done r mem] at idle
    cases idle
  refine ⟨done, ?_, ?_, ?_⟩
  · refine List.forall_mem_cons.mpr ⟨fun started => ?_, fun r mem state => ?_⟩
    · rw [moved.tag, List.mem_append]
      rcases moved.cases with ⟨_, idle⟩ | ⟨⟨f, one⟩, _⟩
      · exact .inl (calm.known e List.mem_cons_self fun state => started (idle.mpr state))
      · exact .inr (by simp [one])
    · exact List.mem_append_left _ (calm.known r (List.mem_cons_of_mem e mem) state)
  · refine List.forall_mem_cons.mpr ⟨fun state => ?_, fun r mem state => absurd state (busy r mem)⟩
    rcases moved.cases with ⟨none, idle⟩ | ⟨_, started⟩
    · rw [none, List.map_nil, List.append_nil, moved.tag]
      exact calm.latest e List.mem_cons_self (idle.mp state)
    · exact absurd state started
  · refine List.forall_mem_cons.mpr ⟨?_, fun r mem => calm.fresh r (List.mem_cons_of_mem e mem)⟩
    rw [moved.tag]
    exact calm.fresh e List.mem_cons_self

section Moved

variable (attr : PortAttr) (e : TagEcpULPDU)

theorem moved_start :
    let first := ecpTxSm attr 2 .begin e
    let second := ecpTxSm attr 2 .reqRecv { first.1 with sequence := first.1.ecpdu.sequence }
    Moved e second.1 (first.2 ++ second.2) := by
  cases state : e.txState with
  | idle => constructor <;> simp [ecpTxSm, ecpTxActions, initTr, trEcpdu, state]
  | initTransmit => constructor <;> simp [ecpTxSm, ecpTxActions, txErr, trEcpdu, state]
  | transmitEcpdu => constructor <;> simp [ecpTxSm, ecpTxActions, txErr, state]
  | waitForReq => constructor <;> simp [ecpTxSm, ecpTxActions, txErr, trEcpdu, state]
  | countErr => constructor <;> simp [ecpTxSm, ecpTxActions, txErr, state]

theorem moved_retransmit :
    Moved e (ecpTxSm attr 2 .retransmit e).1 (ecpTxSm attr 2 .retransmit e).2 := by
  cases state : e.txState <;> constructor <;> simp [ecpTxSm, ecpTxActions, trEcpdu, txErr, state]

theorem moved_notRetransmit :
    Moved e (ecpTxSm attr 2 .notRetransmit e).1 (ecpTxSm attr 2 .notRetransmit e).2 := by
  cases state : e.txState <;> constructor <;>
    simp [ecpTxSm, ecpTxActions, cntErr, wtForReq, txErr, state]

theorem acked_ackRecvOk :
    Acked e (ecpTxSm attr 2 .ackRecvOk { e with ackReceived := true }).1 := by
  cases state : e.txState <;> simp [Acked, ecpTxSm, ecpTxActions, wtForReq, txErr, state]

end Moved

/-- A tick drops the list, takes a finished entry out, or works on the first one. -/
theorem txHandler_cases (attr : PortAttr) (ecp : TagEcp) :
    let result := ecpTxLoopTimerHandler attr ecp
    (result.1.lstEcpULPDUtx.Sublist ecp.lstEcpULPDUtx ∧ result.2 = []) ∨
      ∃ e rest e' sent, ecp.lstEcpULPDUtx = e :: rest ∧ Moved e e' sent ∧
        result.1.lstEcpULPDUtx = e' :: rest ∧ result.2 = sent.map (e.tag, ·) := by
  intro result
  have shape : result = ecpTxLoopTimerHandler attr ecp := rfl
  rw [ecpTxLoopTimerHandler] at shape
  by_cases open_ : attr.evbTlvStatusSucc = true
  swap
  · rw [if_pos (by simpa using open_)] at shape
    rw [shape]
    exact .inl ⟨List.nil_sublist _, rfl⟩
  rw [if_neg (by simpa using open_)] at shape
  cases list : ecp.lstEcpULPDUtx with
  | nil =>
      simp only [list] at shape
      rw [shape]
      exact .inl ⟨by rw [list], rfl⟩
  | cons e rest =>
      simp only [list] at shape
      split at shape
      · rw [shape]
        exact .inr ⟨e, rest, _, _, rfl, moved_start attr e, rfl, rfl⟩
      · split at shape
        · rw [shape]
          exact .inl ⟨List.eraseP_sublist, rfl⟩
        · -- the timer does not matter to the state
          have timed : ∀ timer : UInt32, ∀ {e' : TagEcpULPDU} {sent : List Frame},
              Moved { e with ackTimer := timer } e' sent → Moved e e' sent :=
            fun _ _ _ moved => ⟨moved.tag, moved.cases⟩
          generalize (if e.ackTimer > ECP_LOOP_TIMER_INTERVAL then
            e.ackTimer - ECP_LOOP_TIMER_INTERVAL else 0) = timer at shape
          by_cases out : timer = 0
          · simp only [out, if_true] at shape
            split at shape
            · rw [shape]
              exact .inr ⟨e, rest, _, _, rfl, timed 0 (moved_retransmit attr _), rfl, rfl⟩
            · rw [shape]
              exact .inr ⟨e, rest, _, _, rfl, timed 0 (moved_notRetransmit attr _), rfl, rfl⟩
          · simp only [out, if_false] at shape
            rw [shape]
            exact .inr ⟨e, rest, _, [], rfl, timed timer ⟨rfl, .inl ⟨rfl, Iff.rfl⟩⟩, rfl, rfl⟩

theorem FirstInOrder.snoc {h : ℕ} (order : FirstInOrder transmitted)
    (later : h ∉ transmitted → ∀ g ∈ transmitted, g < h) : FirstInOrder (transmitted ++ [h]) := by
  intro g memG k memK less
  have small : ∀ {n : ℕ}, n ∈ transmitted → transmitted.idxOf n < transmitted.length :=
    List.idxOf_lt_length_iff.mpr
  by_cases oldK : k ∈ transmitted
  · rw [List.idxOf_append_of_mem oldK]
    by_cases oldG : g ∈ transmitted
    · rw [List.idxOf_append_of_mem oldG]
      exact order g oldG k oldK less
    · have new : g = h := by simpa [oldG] using memG
      have past := later (new ▸ oldG) k oldK
      omega
  · have new : k = h := by simpa [oldK] using memK
    have oldG : g ∈ transmitted := by
      rcases List.mem_append.mp memG with old | same
      · exact old
      · rw [List.mem_singleton.mp same] at less
        omega
    rw [List.idxOf_append_of_mem oldG, List.idxOf_append_of_notMem oldK]
    exact Nat.lt_of_lt_of_le (small oldG) (Nat.le_add_right ..)

end Tx

section Rx

variable {handed : List ℕ} {list list' : List TagEcpULPDU} {received : ℕ}

/-- At most one request for VDP waits, and it is later than all that VDP got. -/
structure RxCalm (received : ℕ) (handed : List ℕ) (list : List TagEcpULPDU) : Prop where
  single : list.Pairwise fun a b => ¬ (a.ecpdu.forVdp = true ∧ b.ecpdu.forVdp = true)
  latest : ∀ e ∈ list, e.ecpdu.forVdp = true → ∀ g ∈ handed, g < e.tag
  fresh : ∀ e ∈ list, e.tag < received
  sequence : ∀ e ∈ list, e.sequence = e.ecpdu.sequence

theorem RxCalm.sublist (calm : RxCalm received handed list) (part : list'.Sublist list) :
    RxCalm received handed list' where
  single := calm.single.sublist part
  latest e mem := calm.latest e (part.mem mem)
  fresh e mem := calm.fresh e (part.mem mem)
  sequence e mem := calm.sequence e (part.mem mem)

end Rx

/-- What holds between the calls of a run in which nothing is inserted before work to do. -/
structure Calm (port : Port) : Prop where
  tx : TxCalm port.inserted port.transmitted port.ecp.lstEcpULPDUtx
  sent : ∀ g ∈ port.transmitted, g < port.inserted
  order : FirstInOrder port.transmitted
  rx : RxCalm port.received port.handed port.ecp.lstEcpULPDUrx
  given : ∀ g ∈ port.handed, g < port.received
  handed : port.handed.Pairwise (· < ·)

theorem calm_init (attr : PortAttr) : Calm (Port.init attr) where
  tx := ⟨by simp [Port.init, ecpPortInit], by simp [Port.init, ecpPortInit],
    by simp [Port.init, ecpPortInit], by simp [Port.init, ecpPortInit]⟩
  sent := by simp [Port.init]
  order := by simp [FirstInOrder, Port.init]
  rx := ⟨List.Pairwise.nil, by simp [Port.init], by simp [Port.init, ecpPortInit],
    by simp [Port.init, ecpPortInit]⟩
  given := by simp [Port.init]
  handed := List.Pairwise.nil

theorem forall₂_modify {R : TagEcpULPDU → TagEcpULPDU → Prop} {f : TagEcpULPDU → TagEcpULPDU}
    (same : ∀ e, R e e) (changed : ∀ e, R e (f e)) (list : List TagEcpULPDU) (i : ℕ) :
    List.Forall₂ R list (list.modify i f) := by
  induction list generalizing i with
  | nil => simp
  | cons e rest ih =>
      cases i with
      | zero => exact .cons (changed e) (List.forall₂_same.mpr fun r _ => same r)
      | succ i => exact .cons (same e) (ih i)

section Steps

variable {port : Port} (attr : PortAttr)

theorem calm_txInsert (calm : Calm port) (pIn : Ecpdu)
    (free : ∀ e ∈ port.ecp.lstEcpULPDUtx, e.txState = .waitForReq) :
    Calm (port.call attr (.txInsert pIn)) := by
  have busy : ∀ e ∈ port.ecp.lstEcpULPDUtx, e.txState ≠ .idle := by
    intro e mem idle
    rw [free e mem] at idle
    cases idle
  have list : (port.call attr (.txInsert pIn)).ecp.lstEcpULPDUtx =
      initEcpULDPU attr port.inserted 0 pIn :: port.ecp.lstEcpULPDUtx := listInsert_eq _ _
  refine ⟨?_, fun g mem => Nat.lt_succ_of_lt (calm.sent g mem), calm.order, calm.rx, calm.given,
    calm.handed⟩
  rw [list]
  refine ⟨free, ?_, ?_, ?_⟩
  · exact List.forall_mem_cons.mpr ⟨fun started => absurd rfl started, calm.tx.known⟩
  · exact List.forall_mem_cons.mpr ⟨fun _ => calm.sent,
      fun e mem idle => absurd idle (busy e mem)⟩
  · exact List.forall_mem_cons.mpr ⟨Nat.lt_succ_self _,
      fun e mem => Nat.lt_succ_of_lt (calm.tx.fresh e mem)⟩

theorem calm_rxInsert (calm : RxCalm port.received port.handed port.ecp.lstEcpULPDUrx)
    (given : ∀ g ∈ port.handed, g < port.received) (ecpdu : Ecpdu)
    (free : ecpdu.forVdp = true → ∀ e ∈ port.ecp.lstEcpULPDUrx, e.ecpdu.forVdp = false) :
    RxCalm (port.received + 1) port.handed
      (listEcpULPDUrxInsert attr port.received ecpdu port.ecp).lstEcpULPDUrx := by
  have list : (listEcpULPDUrxInsert attr port.received ecpdu port.ecp).lstEcpULPDUrx =
      initEcpULDPU attr port.received ecpdu.sequence ecpdu :: port.ecp.lstEcpULPDUrx :=
    listInsert_eq _ _
  rw [list]
  refine ⟨List.pairwise_cons.mpr ⟨?_, calm.single⟩, ?_, ?_, ?_⟩
  · rintro e mem ⟨new, old⟩
    rw [free new e mem] at old
    cases old
  · exact List.forall_mem_cons.mpr ⟨fun _ => given, calm.latest⟩
  · exact List.forall_mem_cons.mpr ⟨Nat.lt_succ_self _,
      fun e mem => Nat.lt_succ_of_lt (calm.fresh e mem)⟩
  · exact List.forall_mem_cons.mpr ⟨rfl, calm.sequence⟩

theorem RxCalm.later {received : ℕ} {handed : List ℕ} {list : List TagEcpULPDU}
    (calm : RxCalm received handed list) : RxCalm (received + 1) handed list :=
  { calm with fresh := fun e mem => Nat.lt_succ_of_lt (calm.fresh e mem) }

theorem calm_receive (calm : Calm port) (frame : Frame)
    (free : frame.requestForVdp = true → ∀ e ∈ port.ecp.lstEcpULPDUrx, e.ecpdu.forVdp = false) :
    Calm (port.call attr (.receive frame)) := by
  have given : ∀ g ∈ port.handed, g < port.received + 1 :=
    fun g mem => Nat.lt_succ_of_lt (calm.given g mem)
  have same : Calm { port with received := port.received + 1 } :=
    ⟨calm.tx, calm.sent, calm.order, calm.rx.later, given, calm.handed⟩
  rw [Port.call]
  simp only [ecpRxReceiveFrame]
  cases read : frame.accepted with
  | none => exact same
  | some ecpdu =>
      simp only
      split
      · rename_i request
        have single : ecpdu.forVdp = true → ∀ e ∈ port.ecp.lstEcpULPDUrx,
            e.ecpdu.forVdp = false := by
          intro forVdp
          exact free (by simp [Frame.requestForVdp, read, request, forVdp])
        exact ⟨calm.tx, calm.sent, calm.order,
          calm_rxInsert attr calm.rx calm.given ecpdu single, given, calm.handed⟩
      · split
        · split
          · exact same
          · exact ⟨calm.tx.acked (forall₂_modify acked_refl (acked_ackRecvOk attr) _ _),
              calm.sent, calm.order, calm.rx.later, given, calm.handed⟩
        · exact same

theorem calm_chg (calm : Calm port) (chgR chgRTE : Bool) :
    Calm (port.call attr (.chg chgR chgRTE)) := by
  rw [Port.call, evbtlvChgSetEcp]
  split
  · refine ⟨calm.tx.acked ?_, calm.sent, calm.order, ?_, calm.given, calm.handed⟩
    · exact List.forall₂_map_right_iff.mpr (List.forall₂_same.mpr fun e _ => ⟨rfl, .inl rfl⟩)
    · refine ⟨List.pairwise_map.mpr calm.rx.single, ?_, ?_, ?_⟩
      · exact List.forall_mem_map.mpr calm.rx.latest
      · exact List.forall_mem_map.mpr calm.rx.fresh
      · exact List.forall_mem_map.mpr calm.rx.sequence
  · exact calm

theorem RxCalm.taken {received : ℕ} {handed : List ℕ} {e : TagEcpULPDU} {rest : List TagEcpULPDU}
    (calm : RxCalm received handed (e :: rest)) (forVdp : e.ecpdu.forVdp = true) :
    RxCalm received (handed ++ [e.tag]) rest where
  single := (List.pairwise_cons.mp calm.single).2
  latest r mem other := absurd ⟨forVdp, other⟩ ((List.pairwise_cons.mp calm.single).1 r mem)
  fresh r mem := calm.fresh r (List.mem_cons_of_mem e mem)
  sequence r mem := calm.sequence r (List.mem_cons_of_mem e mem)

/-- The transmit half of a tick. -/
structure TxTicked (port : Port) (list : List TagEcpULPDU) (sent : List ℕ) : Prop where
  calm : TxCalm port.inserted (port.transmitted ++ sent) list
  below : ∀ g ∈ port.transmitted ++ sent, g < port.inserted
  order : FirstInOrder (port.transmitted ++ sent)
  alone : ∀ h ∈ port.transmitted ++ sent, h ∉ port.transmitted →
    ∀ e ∈ port.ecp.lstEcpULPDUtx, e.tag < h → e.txState ≠ .transmitEcpdu

theorem TxTicked.silent {list : List TagEcpULPDU} (calm : Calm port)
    (kept : TxCalm port.inserted port.transmitted list) : TxTicked port list [] where
  calm := by simpa using kept
  below := by simpa using calm.sent
  order := by simpa using calm.order
  alone h mem new := absurd (by simpa using mem) new

/-- An entry is transmitted for the first time only when all others are finished. -/
theorem txTicked (calm : Calm port) :
    TxTicked port (ecpTxLoopTimerHandler attr port.ecp).1.lstEcpULPDUtx
      ((ecpTxLoopTimerHandler attr port.ecp).2.map (·.1)) := by
  rcases txHandler_cases attr port.ecp with ⟨part, none⟩ |
      ⟨e, rest, e', sent, list, moved, made, all⟩
  · rw [none]
    exact .silent calm (calm.tx.sublist part)
  have tx := calm.tx
  rw [list] at tx
  have next := tx.moved moved
  rw [made, all, List.map_map]
  change TxTicked port (e' :: rest) (sent.map fun _ => e.tag)
  rcases moved.cases with ⟨none, _⟩ | ⟨⟨f, one⟩, _⟩
  · rw [none] at next ⊢
    exact .silent calm (by simpa using next)
  rw [one, List.map_singleton] at next ⊢
  have small := tx.fresh e List.mem_cons_self
  have fresh : e.tag ∉ port.transmitted → e.txState = .idle := by
    intro new
    by_contra started
    exact new (tx.known e List.mem_cons_self started)
  refine ⟨next, ?_, ?_, ?_⟩
  · exact List.forall_mem_append.mpr ⟨calm.sent, by simpa using small⟩
  · exact calm.order.snoc fun new => tx.latest e List.mem_cons_self (fresh new)
  · intro h mem new other memOther less
    rw [list] at memOther
    have same : h = e.tag := by simpa [new] using mem
    cases memOther with
    | head => omega
    | tail _ memOther =>
        rw [tx.done other memOther]
        simp

theorem tick_eq : port.tick attr =
    let tx := ecpTxLoopTimerHandler attr port.ecp
    let rx := ecpRxLoopTimerHandler attr tx.1
    { port with
      ecp := rx.1
      transmitted := port.transmitted ++ tx.2.map (·.1)
      handed := port.handed ++ rx.2.map (·.1) } := rfl

theorem calm_tick (calm : Calm port) : Calm (port.tick attr) := by
  have ticked := txTicked attr calm
  have rx := calm.rx
  rw [← txHandler_rx attr port.ecp] at rx
  rw [tick_eq]
  simp only
  generalize ecpTxLoopTimerHandler attr port.ecp = tx at ticked rx ⊢
  have ⟨kept, cases⟩ := rxHandler_cases attr rx.sequence
  generalize ecpRxLoopTimerHandler attr tx.1 = result at kept cases ⊢
  rcases cases with ⟨part, none⟩ | ⟨e, list, forVdp, one⟩
  · rw [none, List.map_nil, List.append_nil]
    exact ⟨kept ▸ ticked.calm, ticked.below, ticked.order, rx.sublist part, calm.given, calm.handed⟩
  · rw [one, List.map_singleton]
    rw [list] at rx
    refine ⟨kept ▸ ticked.calm, ticked.below, ticked.order, rx.taken forVdp, ?_, ?_⟩
    · exact List.forall_mem_append.mpr
        ⟨calm.given, by simpa using rx.fresh e List.mem_cons_self⟩
    · rw [List.pairwise_append]
      refine ⟨calm.handed, List.pairwise_singleton .., fun g mem h memH => ?_⟩
      rw [List.mem_singleton.mp memH]
      exact rx.latest e List.mem_cons_self forVdp g mem

end Steps

theorem calm_step {port next : Port} {label : PortAttr × Call} (calm : Calm port)
    (free : Free port label) (step : Step port label next) : Calm next := by
  obtain ⟨attr, call⟩ := label
  rw [step]
  cases call with
  | txInsert pIn => exact calm_txInsert attr calm pIn free
  | receive frame => exact calm_receive attr calm frame free
  | tick => exact calm_tick attr calm
  | chg chgR chgRTE => exact calm_chg attr calm chgR chgRTE

theorem inOrder_step {port next : Port} {label : PortAttr × Call} (calm : Calm port)
    (free : Free port label) (step : Step port label next) : InOrder port next := by
  have after := calm_step calm free step
  refine ⟨after.order, ?_, after.handed⟩
  obtain ⟨attr, call⟩ := label
  rw [step]
  cases call with
  | txInsert pIn => exact fun h mem new => absurd mem new
  | receive frame => exact fun h mem new => absurd mem new
  | tick => exact (txTicked attr calm).alone
  | chg chgR chgRTE => exact fun h mem new => absurd mem new

/-- A port keeps to stop-and-wait, and to the order of what it received, as long as nothing is
inserted before an entry that is still to be worked on. -/
theorem inOrder_of_free {attr : PortAttr} {labels : List (PortAttr × Call)} {port next : Port}
    {label : PortAttr × Call} (run : Run (Guarded Free Step) (Port.init attr) labels port)
    (free : Free port label) (step : Step port label next) : InOrder port next := by
  have calm : Calm port :=
    run.invariant (calm_init attr) fun last label next kept taken => calm_step kept taken.1 taken.2
  exact inOrder_step calm free step

section Examples

/-- The second request is inserted when the first is acknowledged, and is sent in the next tick. -/
theorem inOrder_after_ack :
    let port := [Call.txInsert (exampleRequest 1), .tick, .receive (exampleAck 1),
      .receive (frame (exampleRequest 5) [7]), .txInsert (exampleRequest 2)].foldl
        (Port.call exampleAttr) (Port.init exampleAttr)
    port.transmitted = [0] ∧ (port.tick exampleAttr).transmitted = [0, 1] ∧
      InOrder port (port.tick exampleAttr) := by
  intro port
  refine ⟨by decide, by decide, ?_⟩
  have run : Run (Guarded Free Step) (Port.init exampleAttr)
      [(exampleAttr, .txInsert (exampleRequest 1)), (exampleAttr, .tick),
        (exampleAttr, .receive (exampleAck 1)),
        (exampleAttr, .receive (frame (exampleRequest 5) [7])),
        (exampleAttr, .txInsert (exampleRequest 2))] port :=
    ((((Run.refl.snoc ⟨by decide, rfl⟩).snoc ⟨by decide, rfl⟩).snoc
      ⟨by decide, rfl⟩).snoc ⟨by decide, rfl⟩).snoc ⟨by decide, rfl⟩
  exact @inOrder_of_free exampleAttr _ port _ (exampleAttr, .tick) run trivial rfl

/-- The second request is inserted before the first and is sent although the first still awaits its
acknowledgement. Of two requests received between two ticks, VDP gets the second one first. -/
theorem overtaken : (¬ ∀ attr labels port label next, Run Step (Port.init attr) labels port →
      Step port label next → InOrder port next) ∧
    ([Call.receive (frame (exampleRequest 1) [7]), .receive (frame (exampleRequest 2) [7]), .tick,
      .tick].foldl (Port.call exampleAttr) (Port.init exampleAttr)).handed = [1, 0] := by
  refine ⟨fun all => ?_, by decide⟩
  let port := [Call.txInsert (exampleRequest 1), .tick, .txInsert (exampleRequest 2)].foldl
    (Port.call exampleAttr) (Port.init exampleAttr)
  have run : Run Step (Port.init exampleAttr)
      [(exampleAttr, .txInsert (exampleRequest 1)), (exampleAttr, .tick),
        (exampleAttr, .txInsert (exampleRequest 2))] port :=
    ((Run.refl.snoc rfl).snoc rfl).snoc rfl
  have order := all exampleAttr _ port (exampleAttr, .tick) _ run rfl
  have alone := order.alone 1 (by decide) (by decide)
  revert alone
  decide

end Examples

end Tecs.Ecp
