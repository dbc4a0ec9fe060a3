import Tecs.Evb.Ecp
import Tecs.Library.Bytes
import Tecs.Library.Run

set_option autoImplicit false

/-! Two connected ports, and a wire that loses, delays and repeats frames. -/

namespace Tecs.Ecp

open Transition

/-- A frame on the wire. The tag of a request is the number of its PDU at the sender. -/
structure Copy where
  tag : ℕ
  frame : Frame
deriving Repr, DecidableEq

/-- One side: its port, how many PDUs were inserted, the numbers of the requests for VDP that were
received and of those handed to VDP, and all that was ever sent. -/
structure Peer where
  ecp : TagEcp
  inserted : ℕ
  received : List ℕ
  handed : List ℕ
  sent : List Copy
deriving Repr, DecidableEq

def Peer.init (attr : PortAttr) : Peer := ⟨ecpPortInit attr, 0, [], [], []⟩

inductive Move
  | txInsert (pIn : Ecpdu)
  | tick
  | chg (chgR chgRTE : Bool)
  | deliver (copy : Copy)

def Peer.move (attr : PortAttr) (peer : Peer) : Move → Peer
  | .txInsert pIn =>
      { peer with
        ecp := listEcpULPDUtxInsert attr peer.inserted pIn peer.ecp
        inserted := peer.inserted + 1 }
  | .tick =>
      let (ecp, sent) := ecpTxLoopTimerHandler attr peer.ecp
      let (ecp, handed) := ecpRxLoopTimerHandler attr ecp
      { peer with
        ecp
        handed := peer.handed ++ handed.map (·.1)
        sent := peer.sent ++ sent.map fun (tag, frame) => ⟨tag, frame⟩ }
  | .chg chgR chgRTE => { peer with ecp := evbtlvChgSetEcp attr chgR chgRTE peer.ecp }
  | .deliver copy =>
      let (ecp, acks) := ecpRxReceiveFrame attr copy.tag copy.frame peer.ecp
      { peer with
        ecp
        received :=
          if copy.frame.requestForVdp then peer.received ++ [copy.tag] else peer.received
        sent := peer.sent ++ acks.map (⟨copy.tag, ·⟩) }

structure Label where
  side : Bool
  attr : PortAttr
  move : Move

/-- What a side sent may reach the other side at any later time, any number of times or never. -/
def OnWire (peers : Bool → Peer) (label : Label) : Prop :=
  match label.move with
  | .deliver copy => copy ∈ (peers !label.side).sent
  | _ => True

def PeerStep (peers : Bool → Peer) (label : Label) (next : Bool → Peer) : Prop :=
  OnWire peers label ∧
    next = Function.update peers label.side ((peers label.side).move label.attr label.move)

/-- The frame is an acknowledgement with the sequence number. -/
def Frame.Acks (frame : Frame) (sequence : UInt16) : Prop :=
  ∃ ecpdu, frame.accepted = some ecpdu ∧ ecpdu.isRequest = false ∧
    (ecpduHeadNTOH ecpdu.verOpSub).operType = ECP_ACK ∧ ecpdu.sequence = sequence

/-- VDP gets no PDU twice, and each request that is received is acknowledged. -/
structure AtMostOnce (peers : Bool → Peer) (label : Label) (next : Bool → Peer) : Prop where
  once : ∀ side, (next side).handed.Nodup
  acked : ∀ copy request, label.move = .deliver copy → copy.frame.accepted = some request →
    request.isRequest = true → ∃ acks, (next label.side).sent = (peers label.side).sent ++ acks ∧
      ∃ ack ∈ acks, ack.frame.Acks request.sequence

/-- No copy of a request comes after another copy of it. -/
def FirstCopy (peers : Bool → Peer) (label : Label) : Prop :=
  match label.move with
  | .deliver copy => copy.frame.requestForVdp = true → copy.tag ∉ (peers label.side).received
  | _ => True

section Ack

theorem word_bytes (x : UInt16) : word (x >>> 8).toUInt8 x.toUInt8 = x := Bytes.word_ofWord x

/-- The machine is new for each request, so it never finds the number equal to the last one. -/
theorem acknowledge_eq (attr : PortAttr) (tag : ℕ) (request : Ecpdu) :
    acknowledge attr tag request = [frame ⟨ecpduHeadVerOpSub ECP_VERSION ECP_ACK
      (ecpduHeadNTOH request.verOpSub).subType, request.sequence, []⟩ []] := by
  have new : ¬ request.sequence = request.sequence - 1 := by grind
  simp [acknowledge, ecpRxSm, ecpRxActions, initEcpULDPU, rcvWait, rcvFirst, rcvECPDU, new,
    newECPDU, sAck]

theorem accepted_subType {frame : Frame} {ecpdu : Ecpdu} (accepted : frame.accepted = some ecpdu) :
    (ecpduHeadNTOH ecpdu.verOpSub).subType = ECP_SUBTYPE_VDP ∨
      (ecpduHeadNTOH ecpdu.verOpSub).subType = ECP_SUBTYPE_PECSP := by
  rw [Frame.accepted] at accepted
  split at accepted
  · cases accepted
  split at accepted
  swap
  · cases accepted
  simp only at accepted
  split at accepted
  · cases accepted
  split at accepted
  · cases accepted
  rename_i known
  rw [← Option.some.inj accepted]
  simp only
  by_contra other
  exact known (not_or.mp other)

theorem ack_acks {subType : UInt16}
    (known : subType = ECP_SUBTYPE_VDP ∨ subType = ECP_SUBTYPE_PECSP)
    (sequence : UInt16) :
    (frame ⟨ecpduHeadVerOpSub ECP_VERSION ECP_ACK subType, sequence, []⟩ []).Acks sequence := by
  have head : ecpduHeadNTOH (ecpduHeadVerOpSub ECP_VERSION ECP_ACK subType) =
      ⟨ECP_VERSION, ECP_ACK, subType⟩ := by
    rcases known with rfl | rfl
    · decide
    · decide
  have accepted : ¬ (subType ≠ ECP_SUBTYPE_VDP ∧ subType ≠ ECP_SUBTYPE_PECSP) :=
    fun other => known.elim other.1 other.2
  refine ⟨⟨ecpduHeadVerOpSub ECP_VERSION ECP_ACK subType, sequence, List.replicate 46 0⟩,
    ?_, ?_, ?_, rfl⟩
  · simp only [Frame.accepted, frame, headBytes, List.cons_append, List.nil_append, word_bytes,
      head, accepted]
    rfl
  · rw [Ecpdu.isRequest, head]
    rfl
  · rw [head]

end Ack

namespace Peer

/-- The numbers of the requests that VDP is still to get. -/
def waiting (peer : Peer) : List ℕ :=
  (peer.ecp.lstEcpULPDUrx.filter (·.ecpdu.forVdp)).map (·.tag)

/-- No request is there twice, waiting or handed over. -/
structure Unique (peer : Peer) : Prop where
  nodup : (peer.handed ++ peer.waiting).Nodup
  known : ∀ tag ∈ peer.handed ++ peer.waiting, tag ∈ peer.received
  own : ∀ e ∈ peer.ecp.lstEcpULPDUrx, e.sequence = e.ecpdu.sequence

theorem unique_init (attr : PortAttr) : Unique (init attr) :=
  ⟨List.nodup_nil, fun _ none => absurd none List.not_mem_nil, fun _ none =>
    absurd none List.not_mem_nil⟩

variable {peer : Peer} (attr : PortAttr)

theorem unique_part {peer next : Peer} (unique : Unique peer)
    (handed : next.handed = peer.handed) (received : next.received = peer.received)
    (part : next.ecp.lstEcpULPDUrx.Sublist peer.ecp.lstEcpULPDUrx) : Unique next := by
  have fewer : next.waiting.Sublist peer.waiting := (part.filter _).map _
  have all := (List.Sublist.refl peer.handed).append fewer
  refine ⟨?_, ?_, fun e mem => unique.own e (part.mem mem)⟩
  · rw [handed]
    exact unique.nodup.sublist all
  · rw [handed, received]
    exact fun tag mem => unique.known tag (all.mem mem)

theorem unique_txInsert (unique : Unique peer) (pIn : Ecpdu) :
    Unique (peer.move attr (.txInsert pIn)) :=
  unique_part unique rfl rfl (List.Sublist.refl _)

theorem unique_chg (unique : Unique peer) (chgR chgRTE : Bool) :
    Unique (peer.move attr (.chg chgR chgRTE)) := by
  have same : ((peer.ecp.lstEcpULPDUrx.map (·.follow attr peer.ecp.ackTimer)).filter
      (·.ecpdu.forVdp)).map (·.tag) = peer.waiting := by
    rw [List.filter_map, List.map_map]
    rfl
  rw [move, evbtlvChgSetEcp]
  split
  · refine ⟨?_, ?_, List.forall_mem_map.mpr unique.own⟩
    · rw [waiting, same]
      exact unique.nodup
    · rw [waiting, same]
      exact unique.known
  · exact unique

theorem move_tick : peer.move attr .tick =
    let tx := ecpTxLoopTimerHandler attr peer.ecp
    let rx := ecpRxLoopTimerHandler attr tx.1
    { peer with
      ecp := rx.1
      handed := peer.handed ++ rx.2.map (·.1)
      sent := peer.sent ++ tx.2.map fun (tag, frame) => ⟨tag, frame⟩ } := rfl

theorem unique_tick (unique : Unique peer) : Unique (peer.move attr .tick) := by
  have rxSame : (ecpTxLoopTimerHandler attr peer.ecp).1.lstEcpULPDUrx = peer.ecp.lstEcpULPDUrx :=
    txHandler_rx attr peer.ecp
  rw [move_tick]
  simp only
  generalize ecpTxLoopTimerHandler attr peer.ecp = tx at rxSame ⊢
  have ⟨_, cases⟩ := @rxHandler_cases attr tx.1 (rxSame ▸ unique.own)
  generalize ecpRxLoopTimerHandler attr tx.1 = result at cases ⊢
  rw [rxSame] at cases
  rcases cases with ⟨part, none⟩ | ⟨e, list, forVdp, one⟩
  · exact unique_part unique (by simp [none]) rfl part
  · have front : peer.waiting = e.tag :: (result.1.lstEcpULPDUrx.filter (·.ecpdu.forVdp)).map
      (·.tag) := by
      rw [waiting, list, List.filter_cons, if_pos forVdp, List.map_cons]
    have moved : (peer.handed ++ result.2.map (·.1)) ++
        (result.1.lstEcpULPDUrx.filter (·.ecpdu.forVdp)).map (·.tag) =
          peer.handed ++ peer.waiting := by
      rw [one, front, List.append_assoc]
      rfl
    refine ⟨?_, ?_, ?_⟩
    · exact moved ▸ unique.nodup
    · exact moved ▸ unique.known
    · intro r mem
      exact unique.own r (list ▸ List.mem_cons_of_mem e mem)

theorem move_deliver (copy : Copy) : peer.move attr (.deliver copy) =
    let result := ecpRxReceiveFrame attr copy.tag copy.frame peer.ecp
    { peer with
      ecp := result.1
      received :=
        if copy.frame.requestForVdp then peer.received ++ [copy.tag] else peer.received
      sent := peer.sent ++ result.2.map (⟨copy.tag, ·⟩) } := rfl

theorem receive_request {frame : Frame} {request : Ecpdu} (accepted : frame.accepted = some request)
    (isRequest : request.isRequest = true) (tag : ℕ) (ecp : TagEcp) :
    ecpRxReceiveFrame attr tag frame ecp =
      (listEcpULPDUrxInsert attr tag request ecp, acknowledge attr tag request) := by
  simp only [ecpRxReceiveFrame, accepted, isRequest, if_true]

theorem receive_other {frame : Frame} (other : ∀ request, frame.accepted = some request →
    request.isRequest = false) (tag : ℕ) (ecp : TagEcp) :
    (ecpRxReceiveFrame attr tag frame ecp).1.lstEcpULPDUrx = ecp.lstEcpULPDUrx := by
  rw [ecpRxReceiveFrame]
  cases read : frame.accepted with
  | none => rfl
  | some ecpdu =>
      simp only [other ecpdu read, Bool.false_eq_true, if_false]
      split
      · split
        · rfl
        · rfl
      · rfl

theorem unique_deliver (unique : Unique peer) (copy : Copy)
    (first : copy.frame.requestForVdp = true → copy.tag ∉ peer.received) :
    Unique (peer.move attr (.deliver copy)) := by
  rw [move_deliver]
  by_cases isRequest : ∃ request, copy.frame.accepted = some request ∧ request.isRequest = true
  swap
  · have other : ∀ request, copy.frame.accepted = some request → request.isRequest = false := by
      intro request accepted
      by_contra own
      exact isRequest ⟨request, accepted, by simpa using own⟩
    have noRequest : copy.frame.requestForVdp = false := by
      rw [Frame.requestForVdp]
      cases read : copy.frame.accepted with
      | none => rfl
      | some ecpdu => simp only [other ecpdu read, Bool.false_and]
    refine unique_part unique rfl (by simp [noRequest]) ?_
    exact (receive_other attr other copy.tag peer.ecp) ▸ List.Sublist.refl _
  have ⟨request, accepted, own⟩ := isRequest
  have inserted : (listEcpULPDUrxInsert attr copy.tag request peer.ecp).lstEcpULPDUrx =
      initEcpULDPU attr copy.tag request.sequence request :: peer.ecp.lstEcpULPDUrx :=
    listInsert_eq _ _
  have forVdp : copy.frame.requestForVdp = request.forVdp := by
    simp only [Frame.requestForVdp, accepted, own, Bool.true_and]
  rw [receive_request attr accepted own]
  rw [forVdp] at first
  simp only [forVdp]
  have sequence : ∀ e ∈ (listEcpULPDUrxInsert attr copy.tag request peer.ecp).lstEcpULPDUrx,
      e.sequence = e.ecpdu.sequence := by
    rw [inserted]
    exact List.forall_mem_cons.mpr ⟨rfl, unique.own⟩
  by_cases vdp : request.forVdp = true
  · have new := first vdp
    have front : ((listEcpULPDUrxInsert attr copy.tag request peer.ecp).lstEcpULPDUrx.filter
        (·.ecpdu.forVdp)).map (·.tag) = copy.tag :: peer.waiting := by
      rw [inserted, List.filter_cons, if_pos (by exact vdp), List.map_cons]
      rfl
    refine ⟨?_, ?_, sequence⟩
    · rw [waiting, front]
      refine (List.perm_middle.nodup_iff).mpr (List.nodup_cons.mpr ⟨?_, unique.nodup⟩)
      exact fun mem => new (unique.known _ mem)
    · intro tag mem
      rw [waiting, front, List.perm_middle.mem_iff, List.mem_cons] at mem
      simp only [vdp, if_true, List.mem_append, List.mem_singleton]
      exact mem.symm.imp_left (unique.known tag)
  · have same : ((listEcpULPDUrxInsert attr copy.tag request peer.ecp).lstEcpULPDUrx.filter
        (·.ecpdu.forVdp)).map (·.tag) = peer.waiting := by
      rw [inserted, List.filter_cons, if_neg (by exact vdp)]
      rfl
    simp only [vdp, Bool.false_eq_true, if_false]
    refine ⟨?_, ?_, sequence⟩
    · rw [waiting, same]
      exact unique.nodup
    · rw [waiting, same]
      exact unique.known

end Peer

theorem unique_step {peers next : Bool → Peer} {label : Label}
    (unique : ∀ side, (peers side).Unique) (first : FirstCopy peers label)
    (step : PeerStep peers label next) : ∀ side, (next side).Unique := by
  obtain ⟨self, attr, action⟩ := label
  have moved : ((peers self).move attr action).Unique := by
    cases action with
    | txInsert pIn => exact Peer.unique_txInsert attr (unique self) pIn
    | tick => exact Peer.unique_tick attr (unique self)
    | chg chgR chgRTE => exact Peer.unique_chg attr (unique self) chgR chgRTE
    | deliver copy => exact Peer.unique_deliver attr (unique self) copy first
  intro side
  rw [step.2]
  by_cases same : side = self
  · rw [same, Function.update_self]
    exact moved
  · rw [Function.update_of_ne same]
    exact unique side

/-- Every received request is acknowledged, also one that was received before. -/
theorem acked_step {peers next : Bool → Peer} {label : Label} (step : PeerStep peers label next)
    {copy : Copy} {request : Ecpdu} (delivered : label.move = .deliver copy)
    (accepted : copy.frame.accepted = some request) (isRequest : request.isRequest = true) :
    ∃ acks, (next label.side).sent = (peers label.side).sent ++ acks ∧
      ∃ ack ∈ acks, ack.frame.Acks request.sequence := by
  obtain ⟨self, attr, action⟩ := label
  cases delivered
  rw [step.2, Function.update_self, Peer.move_deliver]
  simp only [Peer.receive_request attr accepted isRequest, acknowledge_eq, List.map_singleton]
  exact ⟨_, rfl, _, List.mem_singleton_self _, ack_acks (accepted_subType accepted) _⟩

/-- VDP gets each PDU at most once, as long as no copy of a request comes after another. -/
theorem atMostOnce_of_firstCopy {attr : Bool → PortAttr} {labels : List Label}
    {peers next : Bool → Peer} {label : Label}
    (run : Run (Guarded FirstCopy PeerStep) (fun side => Peer.init (attr side)) labels peers)
    (first : FirstCopy peers label) (step : PeerStep peers label next) :
    AtMostOnce peers label next := by
  have unique : ∀ side, (peers side).Unique := by
    refine run.invariant (P := fun last => ∀ side, (last side).Unique) ?_ ?_
    · exact fun side => Peer.unique_init (attr side)
    · exact fun last label next kept taken => unique_step kept taken.1 taken.2
  have after := unique_step unique first step
  refine ⟨fun side => ?_, fun copy request => acked_step step⟩
  exact (List.nodup_append.mp (after side).nodup).1

section Examples

def exampleStart : Bool → Peer := fun _ => Peer.init exampleAttr

def exampleCopy : Copy := ⟨0, frame (exampleRequest 1) [7]⟩

def exampleRun (labels : List Label) : Bool → Peer :=
  labels.foldl (fun peers label =>
    Function.update peers label.side ((peers label.side).move label.attr label.move)) exampleStart

/-- The request arrives once, and VDP gets it in the next tick. -/
theorem atMostOnce_after_delivery :
    let peers := exampleRun [⟨false, exampleAttr, .txInsert (exampleRequest 1)⟩,
      ⟨false, exampleAttr, .tick⟩, ⟨true, exampleAttr, .deliver exampleCopy⟩]
    let next := Function.update peers true ((peers true).move exampleAttr .tick)
    (next true).handed = [0] ∧ AtMostOnce peers ⟨true, exampleAttr, .tick⟩ next := by
  intro peers next
  refine ⟨by decide, ?_⟩
  have run : Run (Guarded FirstCopy PeerStep) (fun _ => Peer.init exampleAttr)
      [⟨false, exampleAttr, .txInsert (exampleRequest 1)⟩, ⟨false, exampleAttr, .tick⟩,
        ⟨true, exampleAttr, .deliver exampleCopy⟩] peers := by
    refine ((Run.refl.snoc ⟨trivial, trivial, rfl⟩).snoc ⟨trivial, trivial, rfl⟩).snoc ⟨?_, ?_, rfl⟩
    · exact fun _ => by decide
    · change exampleCopy ∈ _
      decide
  exact @atMostOnce_of_firstCopy (fun _ => exampleAttr) _ peers next _ run trivial ⟨trivial, rfl⟩

/-- The request reaches the receiver twice, and VDP gets it twice. -/
theorem delivered_twice : ¬ ∀ (attr : Bool → PortAttr) labels peers label next,
    Run PeerStep (fun side => Peer.init (attr side)) labels peers →
      PeerStep peers label next → AtMostOnce peers label next := by
  intro all
  let peers := exampleRun [⟨false, exampleAttr, .txInsert (exampleRequest 1)⟩,
    ⟨false, exampleAttr, .tick⟩, ⟨true, exampleAttr, .deliver exampleCopy⟩,
    ⟨true, exampleAttr, .deliver exampleCopy⟩, ⟨true, exampleAttr, .tick⟩]
  have run : Run PeerStep (fun _ => Peer.init exampleAttr)
      [⟨false, exampleAttr, .txInsert (exampleRequest 1)⟩, ⟨false, exampleAttr, .tick⟩,
        ⟨true, exampleAttr, .deliver exampleCopy⟩, ⟨true, exampleAttr, .deliver exampleCopy⟩,
        ⟨true, exampleAttr, .tick⟩] peers := by
    refine ((((Run.refl.snoc ⟨trivial, rfl⟩).snoc ⟨trivial, rfl⟩).snoc ⟨?_, rfl⟩).snoc
      ⟨?_, rfl⟩).snoc ⟨trivial, rfl⟩
    · change exampleCopy ∈ _
      decide
    · change exampleCopy ∈ _
      decide
  have once := (all (fun _ => exampleAttr) _ peers ⟨true, exampleAttr, .tick⟩ _ run
    ⟨trivial, rfl⟩).once true
  revert once
  decide

end Examples

end Tecs.Ecp
