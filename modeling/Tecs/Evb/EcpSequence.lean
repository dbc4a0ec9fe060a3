import Tecs.Evb.EcpOrder

set_option autoImplicit false

/-! The sequence numbers of a port and the retries of what it sends. -/

namespace Tecs.Ecp.Sequence

open Transition

section Definitions

def ECP_SEQ_NUM_MIN : UInt16 := 1
def ECP_SEQ_NUM_MAX : ℕ := 65536

def ecpSeqNumInc (num : UInt16) : UInt16 :=
  if num.toNat ≥ ECP_SEQ_NUM_MAX - 1 then ECP_SEQ_NUM_MIN else num + 1

/-- The ECP instance with the last number that it gave. Numbers given are counted, and an entry has
the count before its own as its tag; `transmitted` has the tag of every frame sent, and `limit` the
retries that a number was given with. -/
structure Sender where
  ecp : TagEcp
  sSequence : UInt16
  numbered : ℕ
  transmitted : List ℕ
  limit : ℕ → ℕ

def Sender.start (attr : PortAttr) : Sender := ⟨ecpPortInit attr, 0, 0, [], fun _ => 0⟩

def Sender.list (sender : Sender) : List TagEcpULPDU := sender.ecp.lstEcpULPDUtx

/-- A TLV of VDP to send: there is memory for it or not, and then for its entry. -/
inductive SendCall
  | send (pTlv : List UInt8) (memory item : Bool)
  | tick
  | receive (frame : Frame)
deriving DecidableEq

def SendCall.isTick : SendCall → Bool
  | .tick => true
  | _ => false

/-- `vdp_s_tlv_insert_ecplst`, and `vdp_b_tlv_insert_ecplst`, which is the same. -/
def Sender.insert (attr : PortAttr) (sender : Sender) (pTlv : List UInt8) (memory item : Bool) :
    Sender :=
  if memory then
    let seq := ecpSeqNumInc sender.sSequence
    let pEcpdu : Ecpdu := ⟨ecpduHeadVerOpSub ECP_VERSION ECP_REQUEST ECP_SUBTYPE_VDP, seq, pTlv⟩
    { sender with
      ecp := if item then listEcpULPDUtxInsert attr sender.numbered pEcpdu sender.ecp
        else sender.ecp
      sSequence := seq
      numbered := sender.numbered + 1
      limit := Function.update sender.limit sender.numbered attr.ecpMaxTries.toNat }
  else sender

def Sender.tick (attr : PortAttr) (sender : Sender) : Sender :=
  let (ecp, sent) := ecpTxLoopTimerHandler attr sender.ecp
  let (ecp, _) := ecpRxLoopTimerHandler attr ecp
  { sender with ecp, transmitted := sender.transmitted ++ sent.map (·.1) }

def Sender.call (attr : PortAttr) (sender : Sender) : SendCall → Sender
  | .send pTlv memory item => sender.insert attr pTlv memory item
  | .tick => sender.tick attr
  | .receive frame => { sender with ecp := (ecpRxReceiveFrame attr 0 frame sender.ecp).1 }

/-- Each call finds its own attributes of the port, of which the number of tries is a byte. -/
def SendStep (sender : Sender) (label : PortAttr × SendCall) (next : Sender) : Prop :=
  label.1.ecpMaxTries < 256 ∧ next = sender.call label.1 label.2

/-- What holds of the numbers and the transmissions. -/
structure Sender.Right (sender : Sender) : Prop where
  nonzero : sender.numbered ≠ 0 → sender.sSequence ≠ 0
  distinct : sender.list.length < 65535 → (sender.list.map (·.ecpdu.sequence)).Nodup
  tries : ∀ tag < sender.numbered, sender.transmitted.count tag ≤ max 1 (sender.limit tag)

/-- Only the PDU that an acknowledgement names changes, and a tick works on one PDU. -/
def OnlyNamed (sender : Sender) (label : PortAttr × SendCall) (next : Sender) : Prop :=
  match label with
  | (_, .receive frame) => List.Forall₂ (fun e e' => e' = e ∨
      ∃ ack, frame.accepted = some ack ∧ e.ecpdu.sequence = ack.sequence) sender.list next.list
  | (attr, .tick) => attr.evbTlvStatusSucc = true → ∀ e rest, sender.list = e :: rest →
      e.txState = .waitForReq ∧ next.list = rest ∨ ∃ e', e'.tag = e.tag ∧ next.list = e' :: rest
  | (_, .send _ _ _) => True

/-- A PDU that was acknowledged, or that timed out for the last time, goes with one of the following
ticks. -/
def Removes (step : Sender → PortAttr × SendCall → Sender → Prop) (sender : Sender) : Prop :=
  ∀ e ∈ sender.list, e.txState = .waitForReq → ∃ n, ∀ labels next, Run step sender labels next →
    n ≤ labels.countP (·.2.isTick) → ∀ e' ∈ next.list, e'.tag ≠ e.tag

/-- What is sent finds no PDU that waits for its removal, and none that was sent a whole cycle of
numbers before; an acknowledgement of the number 0 finds no PDU that was not sent yet. -/
def Prompt (sender : Sender) (label : PortAttr × SendCall) : Prop :=
  match label with
  | (_, .send _ true true) => ∀ e ∈ sender.list, e.txState ≠ .waitForReq ∧
      (sender.numbered - e.tag) % 65535 ≠ 0
  | (_, .receive frame) => ∀ ack, frame.accepted = some ack → ack.isRequest = false →
      ack.sequence = 0 → ∀ e ∈ sender.list, e.sequence ≠ 0
  | _ => True

end Definitions

section Numbers

/-- The number that the PDU with a tag has. -/
def numberOf (tag : ℕ) : UInt16 := UInt16.ofNat (tag % 65535 + 1)

theorem toNat_numberOf (tag : ℕ) : (numberOf tag).toNat = tag % 65535 + 1 := by
  rw [numberOf, UInt16.toNat_ofNat']
  omega

theorem numberOf_ne_zero (tag : ℕ) : numberOf tag ≠ 0 := by
  intro zero
  have value := toNat_numberOf tag
  rw [zero] at value
  change 0 = _ at value
  omega

theorem numberOf_inj {tag other : ℕ} (apart : tag % 65535 ≠ other % 65535) :
    numberOf tag ≠ numberOf other := by
  intro same
  have values := congrArg UInt16.toNat same
  rw [toNat_numberOf, toNat_numberOf] at values
  omega

/-- The numbers go round from 1 to 65535. -/
theorem ecpSeqNumInc_numberOf (tag : ℕ) : ecpSeqNumInc (numberOf tag) = numberOf (tag + 1) := by
  apply UInt16.toNat_inj.mp
  rw [ecpSeqNumInc, toNat_numberOf, toNat_numberOf, ECP_SEQ_NUM_MAX]
  split
  · change 1 = _
    omega
  · rw [UInt16.toNat_add, toNat_numberOf]
    change (_ + 1) % 65536 = _
    omega

theorem ecpSeqNumInc_zero : ecpSeqNumInc 0 = numberOf 0 := by decide

end Numbers

section Work

variable {attr : PortAttr} {e e' : TagEcpULPDU}

/-- How an entry is while it waits in the list. -/
def Settled (e : TagEcpULPDU) : Prop :=
  e.txState = .idle ∧ e.sequence = 0 ∨
    e.sequence ≠ 0 ∧ e.sequence = e.ecpdu.sequence ∧
      (e.txState = .transmitEcpdu ∨ e.txState = .waitForReq)

/-- What a tick does with an entry that is not to be removed, with the number of frames sent. -/
structure Worked (attr : PortAttr) (e e' : TagEcpULPDU) (sent : ℕ) : Prop where
  tag : e'.tag = e.tag
  ecpdu : e'.ecpdu = e.ecpdu
  maxTries : e'.maxTries = e.maxTries
  sequence : e'.sequence = e.ecpdu.sequence
  cases : e.txState = .idle ∧ e'.txState = .transmitEcpdu ∧ e'.retries = 1 ∧ sent = 1 ∨
    e.txState = .transmitEcpdu ∧
      (e'.txState = .transmitEcpdu ∧ e'.retries = e.retries ∧ sent = 0 ∧
          e.ackTimer.toNat = e'.ackTimer.toNat + ECP_LOOP_TIMER_INTERVAL.toNat ∨
        e'.txState = .transmitEcpdu ∧ e'.retries = e.retries + 1 ∧ sent = 1 ∧
          e.retries.toUInt32 < e.maxTries ∨
        e'.txState = .waitForReq ∧ sent = 0)

theorem worked_begin (idle : e.txState = .idle) :
    let first := ecpTxSm attr 2 .begin e
    let second := ecpTxSm attr 2 .reqRecv { first.1 with sequence := first.1.ecpdu.sequence }
    Worked attr e second.1 (first.2 ++ second.2).length := by
  intro first second
  have shape : first = ({ e with
      txState := .initTransmit
      retries := 0
      requestReceived := false
      ackReceived := false
      txErrors := 0 }, []) := by
    simp only [first, ecpTxSm, ecpTxActions, idle, initTr, Option.toList_none]
  constructor <;> simp [second, shape, ecpTxSm, ecpTxActions, trEcpdu, idle]

theorem worked_timer (transmits : e.txState = .transmitEcpdu)
    (own : e.sequence = e.ecpdu.sequence) (waits : e.ackTimer > ECP_LOOP_TIMER_INTERVAL) :
    Worked attr e { e with ackTimer := e.ackTimer - ECP_LOOP_TIMER_INTERVAL } 0 := by
  refine ⟨rfl, rfl, rfl, own, .inr ⟨transmits, .inl ⟨transmits, rfl, rfl, ?_⟩⟩⟩
  have less := UInt32.lt_iff_toNat_lt.mp waits
  change _ = (e.ackTimer - ECP_LOOP_TIMER_INTERVAL).toNat + _
  rw [UInt32.toNat_sub_of_le _ _ (UInt32.le_of_lt waits)]
  omega

theorem worked_retransmit (transmits : e.txState = .transmitEcpdu)
    (own : e.sequence = e.ecpdu.sequence) (more : e.retries.toUInt32 < e.maxTries) :
    let done := ecpTxSm attr 2 .retransmit { e with ackTimer := 0 }
    Worked attr e done.1 done.2.length := by
  constructor <;> simp [ecpTxSm, ecpTxActions, trEcpdu, transmits, own, more]

theorem worked_notRetransmit (transmits : e.txState = .transmitEcpdu)
    (own : e.sequence = e.ecpdu.sequence) :
    let done := ecpTxSm attr 2 .notRetransmit { e with ackTimer := 0 }
    Worked attr e done.1 done.2.length := by
  constructor <;> simp [ecpTxSm, ecpTxActions, cntErr, wtForReq, transmits, own]

/-- A tick drops the list, takes the first entry out or works on it. -/
theorem txHandler_spec (attr : PortAttr) {ecp : TagEcp}
    (settled : ∀ e ∈ ecp.lstEcpULPDUtx, Settled e) :
    let result := ecpTxLoopTimerHandler attr ecp
    (attr.evbTlvStatusSucc = false ∨ ecp.lstEcpULPDUtx = []) ∧
        result.1.lstEcpULPDUtx = [] ∧ result.2 = [] ∨
      ∃ e rest, ecp.lstEcpULPDUtx = e :: rest ∧
        (e.txState = .waitForReq ∧ result.1.lstEcpULPDUtx = rest ∧ result.2 = [] ∨
          ∃ e', ∃ sent : List Frame, Worked attr e e' sent.length ∧
            result.1.lstEcpULPDUtx = e' :: rest ∧ result.2 = sent.map (e.tag, ·)) := by
  intro result
  have shape : result = ecpTxLoopTimerHandler attr ecp := rfl
  rw [ecpTxLoopTimerHandler] at shape
  cases open_ : attr.evbTlvStatusSucc with
  | false =>
      rw [open_, if_pos (by decide)] at shape
      rw [shape]
      exact .inl ⟨.inl rfl, rfl, rfl⟩
  | true =>
      rw [open_, if_neg (by decide)] at shape
      cases list : ecp.lstEcpULPDUtx with
      | nil =>
          simp only [list] at shape
          rw [shape]
          exact .inl ⟨.inr rfl, list, rfl⟩
      | cons e rest =>
          rw [list] at settled
          simp only [list] at shape
          refine .inr ⟨e, rest, rfl, ?_⟩
          rcases settled e List.mem_cons_self with ⟨idle, new⟩ | ⟨started, own, state⟩
          · rw [if_pos new] at shape
            rw [shape]
            exact .inr ⟨_, _, worked_begin idle, rfl, rfl⟩
          rw [if_neg started] at shape
          rcases state with transmits | done
          · have works : e.txState ≠ .waitForReq := by
              rw [transmits]
              decide
            rw [if_neg works] at shape
            by_cases waits : e.ackTimer > ECP_LOOP_TIMER_INTERVAL
            · have positive : e.ackTimer - ECP_LOOP_TIMER_INTERVAL ≠ 0 := by
                intro zero
                have less := UInt32.lt_iff_toNat_lt.mp waits
                have value := UInt32.toNat_sub_of_le _ _ (UInt32.le_of_lt waits)
                rw [zero] at value
                change 0 = _ at value
                omega
              simp only [if_pos waits, if_neg positive] at shape
              rw [shape]
              exact .inr ⟨_, [], worked_timer transmits own waits, rfl, rfl⟩
            · simp only [if_neg waits, if_true] at shape
              by_cases more : e.retries.toUInt32 < e.maxTries
              · rw [if_pos more] at shape
                rw [shape]
                exact .inr ⟨_, _, worked_retransmit transmits own more, rfl, rfl⟩
              · rw [if_neg more] at shape
                rw [shape]
                exact .inr ⟨_, _, worked_notRetransmit transmits own, rfl, rfl⟩
          · rw [if_pos done] at shape
            have first : listRemove e.ecpdu (e :: rest) = rest :=
              List.eraseP_cons_of_pos (decide_eq_true own)
            rw [shape]
            exact .inl ⟨done, by rw [first], rfl⟩

theorem Worked.settled {sent : ℕ} (worked : Worked attr e e' sent)
    (named : e.ecpdu.sequence ≠ 0) : Settled e' := by
  refine .inr ⟨?_, ?_, ?_⟩
  · rw [worked.sequence]
    exact named
  · rw [worked.sequence, worked.ecpdu]
  · rcases worked.cases with ⟨-, transmits, -, -⟩ | ⟨-, ⟨transmits, -⟩ | ⟨transmits, -⟩ | ⟨done, -⟩⟩
    · exact .inl transmits
    · exact .inl transmits
    · exact .inl transmits
    · exact .inr done

/-- What an acknowledgement does with an entry that has its number. -/
structure Answered (e e' : TagEcpULPDU) : Prop where
  tag : e'.tag = e.tag
  ecpdu : e'.ecpdu = e.ecpdu
  maxTries : e'.maxTries = e.maxTries
  sequence : e'.sequence = e.sequence
  cases : e.txState = .transmitEcpdu ∧ e'.txState = .waitForReq ∨
    e.txState ≠ .transmitEcpdu ∧ e'.txState = e.txState ∧ e'.retries = e.retries ∧
      e'.ackTimer = e.ackTimer

theorem answered_ackRecvOk (e : TagEcpULPDU) :
    Answered e (ecpTxSm attr 2 .ackRecvOk { e with ackReceived := true }).1 := by
  cases state : e.txState <;> constructor <;>
    simp [ecpTxSm, ecpTxActions, wtForReq, txErr, state]

theorem Answered.settled (answered : Answered e e') (settled : Settled e) : Settled e' := by
  rw [Settled, answered.sequence, answered.ecpdu]
  rcases answered.cases with ⟨transmits, done⟩ | ⟨-, same, -, -⟩
  · rcases settled with ⟨idle, -⟩ | ⟨started, own, -⟩
    · rw [transmits] at idle
      cases idle
    · exact .inr ⟨started, own, .inr done⟩
  · rw [same]
    exact settled

end Work

section Calls

variable {attr : PortAttr} {sender : Sender}

theorem list_insert (pTlv : List UInt8) : (sender.insert attr pTlv true true).list =
    initEcpULDPU attr sender.numbered 0
      ⟨ecpduHeadVerOpSub ECP_VERSION ECP_REQUEST ECP_SUBTYPE_VDP, ecpSeqNumInc sender.sSequence,
        pTlv⟩ :: sender.list :=
  listInsert_eq _ _

theorem rxHandler_tx (ecp : TagEcp) :
    (ecpRxLoopTimerHandler attr ecp).1.lstEcpULPDUtx = ecp.lstEcpULPDUtx := by
  rw [ecpRxLoopTimerHandler]
  split
  · rfl
  · split
    · rfl
    · rfl

theorem list_tick :
    (sender.tick attr).list = (ecpTxLoopTimerHandler attr sender.ecp).1.lstEcpULPDUtx :=
  rxHandler_tx _

theorem transmitted_tick : (sender.tick attr).transmitted =
    sender.transmitted ++ (ecpTxLoopTimerHandler attr sender.ecp).2.map (·.1) := rfl

theorem forall₂_findIdx {p : TagEcpULPDU → Bool} {f : TagEcpULPDU → TagEcpULPDU}
    {list : List TagEcpULPDU} {i : ℕ} (found : list.findIdx? p = some i) :
    List.Forall₂ (fun e e' => e' = e ∨ p e = true ∧ e' = f e) list (list.modify i f) := by
  induction list generalizing i with
  | nil => cases found
  | cons e rest ih =>
      rw [List.findIdx?_cons] at found
      by_cases here : p e = true
      · rw [if_pos here] at found
        obtain rfl := Option.some.inj found
        exact .cons (.inr ⟨here, rfl⟩) (List.forall₂_same.mpr fun _ _ => .inl rfl)
      · rw [if_neg here] at found
        obtain ⟨j, later, rfl⟩ := Option.map_eq_some_iff.mp found
        exact .cons (.inl rfl) (ih later)

/-- What a received frame does with the entries: those with the number of an acknowledgement may
change. -/
theorem list_receive (frame : Frame) :
    List.Forall₂ (fun e e' => e' = e ∨ (∃ ack, frame.accepted = some ack ∧
        ack.isRequest = false ∧ e.sequence = ack.sequence) ∧ Answered e e')
      sender.list (sender.call attr (.receive frame)).list := by
  have same : List.Forall₂ (fun e e' => e' = e ∨ (∃ ack, frame.accepted = some ack ∧
      ack.isRequest = false ∧ e.sequence = ack.sequence) ∧ Answered e e')
        sender.list sender.list := List.forall₂_same.mpr fun _ _ => .inl rfl
  change List.Forall₂ _ _ (ecpRxReceiveFrame attr 0 frame sender.ecp).1.lstEcpULPDUtx
  rw [ecpRxReceiveFrame]
  cases read : frame.accepted with
  | none =>
      rw [read] at same
      exact same
  | some ecpdu =>
      rw [read] at same
      dsimp only
      cases request : ecpdu.isRequest with
      | true => exact same
      | false =>
          rw [if_neg Bool.false_ne_true]
          split
          · cases found : sender.ecp.lstEcpULPDUtx.findIdx? (·.sequence = ecpdu.sequence) with
            | none => exact same
            | some i =>
                refine (forall₂_findIdx found).imp fun e e' related => ?_
                refine related.imp id fun changed => ?_
                obtain ⟨named, rfl⟩ := changed
                exact ⟨⟨ecpdu, rfl, request, of_decide_eq_true named⟩, answered_ackRecvOk e⟩
          · exact same

end Calls

section Sound

variable {attr : PortAttr} {sender next : Sender} {e e' : TagEcpULPDU} {numbered : ℕ}
  {transmitted : List ℕ} {limit : ℕ → ℕ}

/-- What holds of an entry of the list. -/
structure Entry (numbered : ℕ) (transmitted : List ℕ) (limit : ℕ → ℕ) (e : TagEcpULPDU) :
    Prop where
  number : e.ecpdu.sequence = numberOf e.tag
  fresh : e.tag < numbered
  limit : limit e.tag = e.maxTries.toNat
  small : e.maxTries.toNat < 256
  settled : Settled e
  idle : e.txState = .idle → transmitted.count e.tag = 0
  retries : e.txState = .transmitEcpdu → e.retries.toNat = transmitted.count e.tag ∧
    1 ≤ e.retries.toNat ∧ e.retries.toNat ≤ max 1 e.maxTries.toNat

/-- What holds of a sender. -/
structure Sender.Sound (sender : Sender) : Prop where
  sSequence : sender.sSequence =
    if sender.numbered = 0 then 0 else numberOf (sender.numbered - 1)
  entries : ∀ e ∈ sender.list, Entry sender.numbered sender.transmitted sender.limit e
  distinct : (sender.list.map (·.tag % 65535)).Nodup
  tries : ∀ tag, sender.transmitted.count tag ≤ max 1 (sender.limit tag)
  sent : ∀ tag ∈ sender.transmitted, tag < sender.numbered

theorem Sender.start_sound (attr : PortAttr) : (Sender.start attr).Sound where
  sSequence := rfl
  entries _ mem := absurd mem List.not_mem_nil
  distinct := List.nodup_nil
  tries _ := Nat.zero_le _
  sent _ mem := absurd mem List.not_mem_nil

theorem Entry.answered (entry : Entry numbered transmitted limit e) (answered : Answered e e') :
    Entry numbered transmitted limit e' where
  number := by rw [answered.ecpdu, answered.tag, entry.number]
  fresh := by rw [answered.tag]; exact entry.fresh
  limit := by rw [answered.tag, answered.maxTries, entry.limit]
  small := by rw [answered.maxTries]; exact entry.small
  settled := answered.settled entry.settled
  idle state := by
    rw [answered.tag]
    rcases answered.cases with ⟨-, done⟩ | ⟨-, same, -, -⟩
    · rw [done] at state
      cases state
    · exact entry.idle (same ▸ state)
  retries state := by
    rcases answered.cases with ⟨-, done⟩ | ⟨busy, same, -, -⟩
    · rw [done] at state
      cases state
    · exact absurd (same ▸ state) busy

/-- The transmissions of another PDU, a new limit or a new number do not matter. -/
theorem Entry.grown {numbered' : ℕ} {transmitted' : List ℕ} {limit' : ℕ → ℕ}
    (entry : Entry numbered transmitted limit e) (more : numbered ≤ numbered')
    (count : transmitted'.count e.tag = transmitted.count e.tag)
    (limits : limit' e.tag = limit e.tag) : Entry numbered' transmitted' limit' e where
  number := entry.number
  fresh := Nat.lt_of_lt_of_le entry.fresh more
  limit := limits.trans entry.limit
  small := entry.small
  settled := entry.settled
  idle := count ▸ entry.idle
  retries := count ▸ entry.retries

/-- The count of the retries does not go round. -/
theorem retries_succ (small : e.maxTries.toNat < 256) (more : e.retries.toUInt32 < e.maxTries) :
    e.retries.toNat < e.maxTries.toNat ∧ (e.retries + 1).toNat = e.retries.toNat + 1 := by
  have less := UInt32.lt_iff_toNat_lt.mp more
  rw [UInt16.toNat_toUInt32] at less
  refine ⟨less, ?_⟩
  rw [UInt16.toNat_add]
  change (_ + 1) % 65536 = _
  omega

theorem Entry.worked {sent : ℕ} (entry : Entry numbered transmitted limit e)
    (worked : Worked attr e e' sent) :
    Entry numbered (transmitted ++ List.replicate sent e.tag) limit e' ∧
      (transmitted.count e.tag ≤ max 1 (limit e.tag) →
        transmitted.count e.tag + sent ≤ max 1 (limit e.tag)) := by
  have count : (transmitted ++ List.replicate sent e.tag).count e.tag =
      transmitted.count e.tag + sent := by
    rw [List.count_append, List.count_replicate_self]
  have limits := entry.limit
  have small := entry.small
  refine ⟨⟨?_, ?_, ?_, ?_, ?_, fun state => ?_, fun state => ?_⟩, fun bound => ?_⟩
  · rw [worked.ecpdu, worked.tag, entry.number]
  · rw [worked.tag]
    exact entry.fresh
  · rw [worked.tag, worked.maxTries, limits]
  · rw [worked.maxTries]
    exact small
  · refine worked.settled ?_
    rw [entry.number]
    exact numberOf_ne_zero _
  · rcases worked.cases with ⟨-, other, -⟩ | ⟨-, ⟨other, -⟩ | ⟨other, -⟩ | ⟨other, -⟩⟩
    · rw [state] at other
      cases other
    · rw [state] at other
      cases other
    · rw [state] at other
      cases other
    · rw [state] at other
      cases other
  · rw [worked.tag, count, worked.maxTries]
    rcases worked.cases with ⟨idle, -, retries, rfl⟩ | ⟨busy, ⟨-, retries, rfl, -⟩ |
        ⟨-, retries, rfl, more⟩ | ⟨done, -⟩⟩
    · have none := entry.idle idle
      rw [retries, none]
      exact ⟨rfl, Nat.le_refl 1, Nat.le_max_left _ _⟩
    · have before := entry.retries busy
      rw [retries]
      omega
    · have before := entry.retries busy
      have ⟨less, plus⟩ := retries_succ small more
      rw [retries, plus]
      omega
    · rw [state] at done
      cases done
  · rcases worked.cases with ⟨idle, -, retries, rfl⟩ | ⟨busy, ⟨-, retries, rfl, -⟩ |
        ⟨-, retries, rfl, more⟩ | ⟨done, rfl⟩⟩
    · have none := entry.idle idle
      omega
    · exact bound
    · have before := entry.retries busy
      have ⟨less, plus⟩ := retries_succ small more
      omega
    · exact bound

theorem map_of_forall₂ {R : TagEcpULPDU → TagEcpULPDU → Prop} {α : Type} {f : TagEcpULPDU → α}
    {list list' : List TagEcpULPDU} (same : ∀ e e', R e e' → f e' = f e)
    (follow : List.Forall₂ R list list') : list'.map f = list.map f := by
  induction follow with
  | nil => rfl
  | cons related _ ih => rw [List.map_cons, List.map_cons, same _ _ related, ih]

theorem Sender.Sound.receive (sound : sender.Sound) (frame : Frame) :
    (sender.call attr (.receive frame)).Sound where
  sSequence := sound.sSequence
  entries e' mem := by
    obtain ⟨e, there, related⟩ := origin (list_receive frame) mem
    rcases related with rfl | ⟨-, answered⟩
    · exact sound.entries e' there
    · exact (sound.entries e there).answered answered
  distinct := by
    have tags : (sender.call attr (.receive frame)).list.map (·.tag % 65535) =
        sender.list.map (·.tag % 65535) := by
      refine map_of_forall₂ (fun e e' related => ?_) (list_receive frame)
      rcases related with rfl | ⟨-, answered⟩
      · rfl
      · rw [answered.tag]
    rw [tags]
    exact sound.distinct
  tries := sound.tries
  sent := sound.sent

theorem Sender.Sound.tick (sound : sender.Sound) : (sender.tick attr).Sound := by
  have settled : ∀ e ∈ sender.ecp.lstEcpULPDUtx, Settled e :=
    fun e mem => (sound.entries e mem).settled
  rcases txHandler_spec attr settled with ⟨-, list', sent⟩ | ⟨e, rest, list, ⟨-, list', sent⟩ |
    ⟨e', frames, worked, list', sent⟩⟩
  · have same : (sender.tick attr).transmitted = sender.transmitted := by
      rw [transmitted_tick, sent, List.map_nil, List.append_nil]
    have none : (sender.tick attr).list = [] := list_tick.trans list'
    refine ⟨sound.sSequence, fun e mem => ?_, ?_, ?_, ?_⟩
    · rw [none] at mem
      cases mem
    · rw [none]
      exact List.nodup_nil
    · rw [same]
      exact sound.tries
    · rw [same]
      exact sound.sent
  · have same : (sender.tick attr).transmitted = sender.transmitted := by
      rw [transmitted_tick, sent, List.map_nil, List.append_nil]
    have left : (sender.tick attr).list = rest := list_tick.trans list'
    have before : sender.list = e :: rest := list
    have distinct := sound.distinct
    rw [before] at distinct
    refine ⟨sound.sSequence, fun f mem => ?_, ?_, ?_, ?_⟩
    · rw [left] at mem
      rw [same]
      exact sound.entries f (before ▸ List.mem_cons_of_mem e mem)
    · rw [left]
      exact (List.nodup_cons.mp distinct).2
    · rw [same]
      exact sound.tries
    · rw [same]
      exact sound.sent
  · have left : (sender.tick attr).list = e' :: rest := list_tick.trans list'
    have before : sender.list = e :: rest := list
    have more : (sender.tick attr).transmitted =
        sender.transmitted ++ List.replicate frames.length e.tag := by
      rw [transmitted_tick, sent, List.map_map]
      exact congrArg _ List.map_const'
    have distinct := sound.distinct
    rw [before] at distinct
    have entry := sound.entries e (before ▸ List.mem_cons_self)
    have ⟨next, bound⟩ := entry.worked worked
    have other {tag : ℕ} (apart : tag ≠ e.tag) :
        (sender.tick attr).transmitted.count tag = sender.transmitted.count tag := by
      rw [more, List.count_append, List.count_replicate, if_neg (by simpa using apart.symm),
        Nat.add_zero]
    refine ⟨sound.sSequence, fun f mem => ?_, ?_, fun tag => ?_, fun tag mem => ?_⟩
    · rw [left] at mem
      rcases List.mem_cons.mp mem with rfl | mem
      · rw [more]
        exact next
      · have apart : f.tag ≠ e.tag := by
          intro same
          apply (List.nodup_cons.mp distinct).1
          change e.tag % 65535 ∈ _
          rw [← same]
          exact List.mem_map_of_mem mem
        have old := sound.entries f (before ▸ List.mem_cons_of_mem e mem)
        exact old.grown (Nat.le_refl _) (other apart) rfl
    · rw [left, List.map_cons, worked.tag]
      exact distinct
    · by_cases own : tag = e.tag
      · subst own
        rw [more, List.count_append, List.count_replicate_self]
        exact bound (sound.tries e.tag)
      · rw [other own]
        exact sound.tries tag
    · rw [more, List.mem_append] at mem
      rcases mem with old | new
      · exact sound.sent tag old
      · rw [List.eq_of_mem_replicate new]
        exact entry.fresh

theorem Sender.Sound.number (sound : sender.Sound) :
    ecpSeqNumInc sender.sSequence = numberOf sender.numbered := by
  rw [sound.sSequence]
  split
  · next none => rw [none, ecpSeqNumInc_zero]
  · next some =>
    rw [ecpSeqNumInc_numberOf]
    congr 1
    omega

theorem Sender.Sound.insert (sound : sender.Sound) (pTlv : List UInt8) (memory item : Bool)
    (small : attr.ecpMaxTries < 256) (prompt : Prompt sender (attr, .send pTlv memory item)) :
    (sender.insert attr pTlv memory item).Sound := by
  cases memory with
  | false => exact sound
  | true =>
      have number := sound.number
      have more : sender.numbered ≤ sender.numbered + 1 := Nat.le_succ _
      have grown (e : TagEcpULPDU) (mem : e ∈ sender.list) :
          Entry (sender.numbered + 1) sender.transmitted
            (Function.update sender.limit sender.numbered attr.ecpMaxTries.toNat) e := by
        have old := sound.entries e mem
        exact old.grown more rfl (Function.update_of_ne (Nat.ne_of_lt old.fresh) _ _)
      have unsent : sender.transmitted.count sender.numbered = 0 :=
        List.count_eq_zero.mpr fun mem => Nat.lt_irrefl _ (sound.sent _ mem)
      have sSequence : ecpSeqNumInc sender.sSequence =
          if sender.numbered + 1 = 0 then 0 else numberOf (sender.numbered + 1 - 1) := by
        rw [if_neg (Nat.succ_ne_zero _), Nat.add_sub_cancel]
        exact number
      have tries (tag : ℕ) : sender.transmitted.count tag ≤ max 1
          (Function.update sender.limit sender.numbered attr.ecpMaxTries.toNat tag) := by
        by_cases own : tag = sender.numbered
        · rw [own, unsent]
          exact Nat.zero_le _
        · rw [Function.update_of_ne own]
          exact sound.tries tag
      have sent : ∀ tag ∈ sender.transmitted, tag < sender.numbered + 1 :=
        fun tag mem => Nat.lt_succ_of_lt (sound.sent tag mem)
      cases item with
      | false => exact ⟨sSequence, grown, sound.distinct, tries, sent⟩
      | true =>
          refine ⟨sSequence, fun e mem => ?_, ?_, tries, sent⟩
          · rw [list_insert] at mem
            rcases List.mem_cons.mp mem with rfl | old
            · refine ⟨number, Nat.lt_succ_self _, Function.update_self _ _ _,
                UInt32.lt_iff_toNat_lt.mp small, .inl ⟨rfl, rfl⟩, fun _ => unsent, fun state => ?_⟩
              cases state
            · exact grown e old
          · rw [list_insert, List.map_cons]
            refine List.nodup_cons.mpr ⟨fun mem => ?_, sound.distinct⟩
            obtain ⟨e, there, same⟩ := List.mem_map.mp mem
            have fresh := (sound.entries e there).fresh
            have cycle := (prompt e there).2
            change e.tag % 65535 = sender.numbered % 65535 at same
            omega

theorem step_sound {label : PortAttr × SendCall} (sound : sender.Sound)
    (taken : Guarded Prompt SendStep sender label next) : next.Sound := by
  obtain ⟨attr, call⟩ := label
  obtain ⟨prompt, small, rfl⟩ := taken
  cases call with
  | send pTlv memory item => exact sound.insert pTlv memory item small prompt
  | tick => exact sound.tick
  | receive frame => exact sound.receive frame

theorem Sender.Sound.right (sound : sender.Sound) : sender.Right where
  nonzero some := by
    rw [sound.sSequence, if_neg some]
    exact numberOf_ne_zero _
  distinct _ := by
    have numbers : sender.list.map (·.ecpdu.sequence) = sender.list.map (numberOf ·.tag) :=
      List.map_congr_left fun e mem => (sound.entries e mem).number
    have tags := List.pairwise_map.mp sound.distinct
    rw [numbers]
    exact List.pairwise_map.mpr (tags.imp numberOf_inj)
  tries tag _ := sound.tries tag

theorem step_onlyNamed {label : PortAttr × SendCall} (sound : sender.Sound)
    (taken : Guarded Prompt SendStep sender label next) : OnlyNamed sender label next := by
  obtain ⟨attr, call⟩ := label
  obtain ⟨prompt, small, rfl⟩ := taken
  cases call with
  | send pTlv memory item => trivial
  | tick =>
      intro up e rest list
      have settled : ∀ e ∈ sender.ecp.lstEcpULPDUtx, Settled e :=
        fun e mem => (sound.entries e mem).settled
      have before : sender.ecp.lstEcpULPDUtx = e :: rest := list
      rcases txHandler_spec attr settled with ⟨down | none, -⟩ | ⟨f, others, there, work⟩
      · rw [up] at down
        cases down
      · rw [before] at none
        cases none
      · obtain ⟨rfl, rfl⟩ := List.cons.inj (before.symm.trans there)
        rcases work with ⟨done, list', -⟩ | ⟨e', frames, worked, list', -⟩
        · exact .inl ⟨done, list_tick.trans list'⟩
        · exact .inr ⟨e', worked.tag, list_tick.trans list'⟩
  | receive frame =>
      have pairs : List.Forall₂ (fun e e' => e ∈ sender.list ∧ (e' = e ∨
          (∃ ack, frame.accepted = some ack ∧ ack.isRequest = false ∧
            e.sequence = ack.sequence) ∧ Answered e e'))
          sender.list (sender.call attr (.receive frame)).list :=
        (List.forall₂_and_left _ _).mpr ⟨fun e mem => mem, list_receive frame⟩
      refine pairs.imp fun e e' related => ?_
      obtain ⟨mem, same | ⟨⟨ack, read, answer, named⟩, -⟩⟩ := related
      · exact .inl same
      · refine .inr ⟨ack, read, ?_⟩
        rcases (sound.entries e mem).settled with ⟨-, new⟩ | ⟨-, own, -⟩
        · have zero : ack.sequence = 0 := by rw [← named, new]
          exact absurd new (prompt ack read answer zero e mem)
        · rw [← own, named]

end Sound

end Tecs.Ecp.Sequence
