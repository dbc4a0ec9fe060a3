import Tecs.Evb.EcpSequence

set_option autoImplicit false

/-! What a port has sent leaves its list. -/

namespace Tecs.Ecp.Sequence

open Transition

section Work

variable {attr : PortAttr} {e e' : TagEcpULPDU}

/-- The ticks that a try takes at most, with any setting of the timer. -/
def ticksPerTry : ℕ := 268436

/-- A bound on the ticks that an entry at the head of the list takes until it is removed. -/
def workOf (e : TagEcpULPDU) : ℕ :=
  match e.txState with
  | .idle => max 1 e.maxTries.toNat * ticksPerTry + 2
  | .transmitEcpdu => e.ackTimer.toNat / 16000 + 1 +
      (e.maxTries.toNat - e.retries.toNat) * ticksPerTry + 1
  | _ => 1

/-- A bound on the ticks until the entry with a tag is removed, with those before it. -/
def workTo (tag : ℕ) : List TagEcpULPDU → ℕ
  | [] => 0
  | e :: rest => workOf e + if e.tag = tag then 0 else workTo tag rest

theorem workOf_done (done : e.txState = .waitForReq) : workOf e = 1 := by
  rw [workOf, done]

theorem workOf_idle (idle : e.txState = .idle) :
    workOf e = max 1 e.maxTries.toNat * 268436 + 2 := by
  rw [workOf, idle]
  rfl

theorem workOf_transmit (transmits : e.txState = .transmitEcpdu) : workOf e =
    e.ackTimer.toNat / 16000 + 1 + (e.maxTries.toNat - e.retries.toNat) * 268436 + 1 := by
  rw [workOf, transmits]
  rfl

theorem Worked.less {sent : ℕ} (worked : Worked attr e e' sent)
    (small : e.maxTries.toNat < 256) : workOf e' + 1 ≤ workOf e := by
  have timer := e'.ackTimer.toNat_lt
  rcases worked.cases with ⟨idle, state, retries, -⟩ | ⟨busy, ⟨state, retries, -, time⟩ |
      ⟨state, retries, -, more⟩ | ⟨done, -⟩⟩
  · rw [workOf_idle idle, workOf_transmit state, worked.maxTries, retries]
    change _ + (_ - 1) * _ + 1 + 1 ≤ _
    omega
  · rw [workOf_transmit busy, workOf_transmit state, worked.maxTries, retries, time]
    change _ ≤ (_ + 16000) / 16000 + _ + _ + _
    omega
  · have ⟨less, plus⟩ := retries_succ small more
    rw [workOf_transmit busy, workOf_transmit state, worked.maxTries, retries, plus]
    omega
  · rw [workOf_done done, workOf_transmit busy]
    omega

theorem Answered.less (answered : Answered e e') : workOf e' ≤ workOf e := by
  rcases answered.cases with ⟨transmits, done⟩ | ⟨-, state, retries, timer⟩
  · rw [workOf_done done, workOf_transmit transmits]
    omega
  · rw [workOf, workOf, state, retries, timer, answered.maxTries]

theorem workTo_le {R : TagEcpULPDU → TagEcpULPDU → Prop} {list list' : List TagEcpULPDU}
    (less : ∀ e e', R e e' → e'.tag = e.tag ∧ workOf e' ≤ workOf e)
    (follow : List.Forall₂ R list list') (tag : ℕ) : workTo tag list' ≤ workTo tag list := by
  induction follow with
  | nil => exact Nat.le_refl _
  | cons related _ ih =>
      have ⟨same, work⟩ := less _ _ related
      rw [workTo, workTo, same]
      split
      · exact work
      · exact Nat.add_le_add work ih

end Work

section Steps

variable {sender next : Sender} {label : PortAttr × SendCall} {tag : ℕ}

/-- A PDU with the tag waits for its removal. -/
def Waiting (tag : ℕ) (list : List TagEcpULPDU) : Prop :=
  ∃ e ∈ list, e.tag = tag ∧ e.txState = .waitForReq

theorem tick_waiting {attr : PortAttr} (sound : sender.Sound)
    (waiting : Waiting tag sender.list) : (∀ e ∈ (sender.tick attr).list, e.tag ≠ tag) ∨
      Waiting tag (sender.tick attr).list ∧
        workTo tag (sender.tick attr).list + 1 ≤ workTo tag sender.list := by
  obtain ⟨f, mem, own, done⟩ := waiting
  have settled : ∀ e ∈ sender.ecp.lstEcpULPDUtx, Settled e :=
    fun e mem => (sound.entries e mem).settled
  have distinct := sound.distinct
  rcases txHandler_spec attr settled with ⟨-, list', -⟩ | ⟨e, rest, list, work⟩
  · have none : (sender.tick attr).list = [] := list_tick.trans list'
    refine .inl fun e there => ?_
    rw [none] at there
    cases there
  · have before : sender.list = e :: rest := list
    rw [before] at mem distinct ⊢
    have apart {g : TagEcpULPDU} (there : g ∈ rest) : g.tag ≠ e.tag := by
      intro same
      apply (List.nodup_cons.mp distinct).1
      change e.tag % 65535 ∈ _
      rw [← same]
      exact List.mem_map_of_mem there
    rcases work with ⟨gone, list', -⟩ | ⟨e', frames, worked, list', -⟩
    · have left : (sender.tick attr).list = rest := list_tick.trans list'
      rw [left]
      by_cases head : e.tag = tag
      · exact .inl fun g there => head ▸ apart there
      · have later : f ∈ rest := (List.mem_cons.mp mem).resolve_left fun same =>
          head (same ▸ own)
        refine .inr ⟨⟨f, later, own, done⟩, ?_⟩
        rw [workTo, workOf_done gone, if_neg head]
        omega
    · have left : (sender.tick attr).list = e' :: rest := list_tick.trans list'
      rw [left]
      have head : f ≠ e := by
        rintro rfl
        rcases worked.cases with ⟨idle, -⟩ | ⟨busy, -⟩
        · rw [done] at idle
          cases idle
        · rw [done] at busy
          cases busy
      have later : f ∈ rest := (List.mem_cons.mp mem).resolve_left head
      have other : e.tag ≠ tag := own ▸ (apart later).symm
      have less := worked.less (sound.entries e (before ▸ List.mem_cons_self)).small
      refine .inr ⟨⟨f, List.mem_cons_of_mem e' later, own, done⟩, ?_⟩
      rw [workTo, workTo, worked.tag, if_neg other]
      omega

theorem receive_waiting {attr : PortAttr} (frame : Frame)
    (waiting : Waiting tag sender.list) :
    Waiting tag (sender.call attr (.receive frame)).list ∧
      workTo tag (sender.call attr (.receive frame)).list ≤ workTo tag sender.list := by
  have follow : List.Forall₂ (fun e e' => e' = e ∨ (∃ ack, frame.accepted = some ack ∧
      ack.isRequest = false ∧ e.sequence = ack.sequence) ∧ Answered e e')
      sender.list (sender.call attr (.receive frame)).list := list_receive frame
  constructor
  · obtain ⟨f, mem, own, done⟩ := waiting
    obtain ⟨f', there, related⟩ := origin follow.flip mem
    rcases related with rfl | ⟨-, answered⟩
    · exact ⟨f', there, own, done⟩
    · refine ⟨f', there, answered.tag.trans own, ?_⟩
      rcases answered.cases with ⟨busy, -⟩ | ⟨-, same, -, -⟩
      · rw [done] at busy
        cases busy
      · rw [same, done]
  · refine workTo_le (fun e e' related => ?_) follow tag
    rcases related with rfl | ⟨-, answered⟩
    · exact ⟨rfl, Nat.le_refl _⟩
    · exact ⟨answered.tag, answered.less⟩

theorem insert_list {attr : PortAttr} (pTlv : List UInt8) {memory item : Bool}
    (kept : ¬(memory = true ∧ item = true)) :
    (sender.insert attr pTlv memory item).list = sender.list := by
  cases memory with
  | false => rfl
  | true =>
      cases item with
      | false => rfl
      | true => exact absurd ⟨rfl, rfl⟩ kept

theorem step_waiting (sound : sender.Sound) (waiting : Waiting tag sender.list)
    (taken : Guarded Prompt SendStep sender label next) : (∀ e ∈ next.list, e.tag ≠ tag) ∨
      Waiting tag next.list ∧
        workTo tag next.list + (if label.2.isTick then 1 else 0) ≤ workTo tag sender.list := by
  obtain ⟨attr, call⟩ := label
  obtain ⟨prompt, -, rfl⟩ := taken
  cases call with
  | send pTlv memory item =>
      have kept : ¬(memory = true ∧ item = true) := by
        rintro ⟨rfl, rfl⟩
        obtain ⟨e, mem, -, done⟩ := waiting
        exact (prompt e mem).1 done
      have same : (sender.call attr (.send pTlv memory item)).list = sender.list :=
        insert_list pTlv kept
      rw [same]
      exact .inr ⟨waiting, Nat.le_refl _⟩
  | tick => exact tick_waiting sound waiting
  | receive frame => exact .inr (receive_waiting frame waiting)

/-- The tags of the next list are old ones, but for the tag of what is sent. -/
theorem step_tags (sound : sender.Sound) (taken : SendStep sender label next) :
    sender.numbered ≤ next.numbered ∧ ∀ e' ∈ next.list, e'.tag = sender.numbered ∨
      ∃ e ∈ sender.list, e'.tag = e.tag := by
  obtain ⟨attr, call⟩ := label
  obtain ⟨-, rfl⟩ := taken
  cases call with
  | send pTlv memory item =>
      by_cases inserts : memory = true ∧ item = true
      · obtain ⟨rfl, rfl⟩ := inserts
        refine ⟨Nat.le_succ _, fun e' mem => ?_⟩
        have there : e' ∈ (sender.insert attr pTlv true true).list := mem
        rw [list_insert] at there
        rcases List.mem_cons.mp there with rfl | old
        · exact .inl rfl
        · exact .inr ⟨e', old, rfl⟩
      · have same : (sender.call attr (.send pTlv memory item)).list = sender.list :=
          insert_list pTlv inserts
        refine ⟨?_, fun e' mem => .inr ⟨e', same ▸ mem, rfl⟩⟩
        cases memory with
        | false => exact Nat.le_refl _
        | true => exact Nat.le_succ _
  | tick =>
      refine ⟨Nat.le_refl _, fun e' mem => .inr ?_⟩
      have settled : ∀ e ∈ sender.ecp.lstEcpULPDUtx, Settled e :=
        fun e mem => (sound.entries e mem).settled
      have there : e' ∈ (sender.tick attr).list := mem
      rw [list_tick] at there
      rcases txHandler_spec attr settled with ⟨-, list', -⟩ | ⟨e, rest, list, work⟩
      · rw [list'] at there
        cases there
      · have before : sender.list = e :: rest := list
        rw [before]
        rcases work with ⟨-, list', -⟩ | ⟨f, frames, worked, list', -⟩
        · rw [list'] at there
          exact ⟨e', List.mem_cons_of_mem e there, rfl⟩
        · rw [list'] at there
          rcases List.mem_cons.mp there with rfl | old
          · exact ⟨e, List.mem_cons_self, worked.tag⟩
          · exact ⟨e', List.mem_cons_of_mem e old, rfl⟩
  | receive frame =>
      refine ⟨Nat.le_refl _, fun e' mem => .inr ?_⟩
      obtain ⟨e, there, related⟩ := origin (list_receive frame) mem
      rcases related with rfl | ⟨-, answered⟩
      · exact ⟨e', there, rfl⟩
      · exact ⟨e, there, answered.tag⟩

/-- While a PDU waits for its removal, the work before it gets less with every tick. -/
theorem run_waiting {labels : List (PortAttr × SendCall)} (sound : sender.Sound)
    (waiting : Waiting tag sender.list)
    (run : Run (Guarded Prompt SendStep) sender labels next) :
    next.Sound ∧ tag < next.numbered ∧ ((∀ e ∈ next.list, e.tag ≠ tag) ∨
      Waiting tag next.list ∧
        workTo tag next.list + labels.countP (·.2.isTick) ≤ workTo tag sender.list) := by
  induction run with
  | refl =>
      obtain ⟨e, mem, own, -⟩ := id waiting
      exact ⟨sound, own ▸ (sound.entries e mem).fresh, .inr ⟨waiting, Nat.le_refl _⟩⟩
  | @snoc labels last next label _ taken ih =>
      obtain ⟨sound', fresh, before⟩ := ih
      have ⟨more, tags⟩ := step_tags sound' taken.2
      refine ⟨step_sound sound' taken, Nat.lt_of_lt_of_le fresh more, ?_⟩
      rcases before with gone | ⟨there, less⟩
      · refine .inl fun e' mem same => ?_
        rcases tags e' mem with new | ⟨e, old, eq⟩
        · exact Nat.ne_of_lt fresh (same.symm.trans new)
        · exact gone e old (eq.symm.trans same)
      · rcases step_waiting sound' there taken with gone | ⟨still, less'⟩
        · exact .inl gone
        · refine .inr ⟨still, ?_⟩
          rw [List.countP_append, List.countP_singleton]
          omega

/-- In every run in which what is sent and acknowledged finds what it must, the numbers are right,
what is named is what changes, and what was sent is removed. -/
theorem numbers_right_of_prompt {attr : PortAttr} {labels : List (PortAttr × SendCall)}
    (run : Run (Guarded Prompt SendStep) (Sender.start attr) labels sender) :
    sender.Right ∧ Removes (Guarded Prompt SendStep) sender ∧
      ∀ label next, Guarded Prompt SendStep sender label next → OnlyNamed sender label next := by
  have sound : sender.Sound :=
    run.invariant (Sender.start_sound attr) fun _ _ _ sound taken => step_sound sound taken
  refine ⟨sound.right, fun e mem done => ?_, fun _ _ => step_onlyNamed sound⟩
  refine ⟨workTo e.tag sender.list + 1, fun labels next later ticks => ?_⟩
  obtain ⟨-, -, gone | ⟨-, less⟩⟩ := run_waiting sound ⟨e, mem, rfl, done⟩ later
  · exact gone
  · omega

end Steps

section Examples

theorem send_step (attr : PortAttr) (sender : Sender) (call : SendCall)
    (small : attr.ecpMaxTries < 256) : SendStep sender (attr, call) (sender.call attr call) :=
  ⟨small, rfl⟩

/-- A PDU is sent and acknowledged. -/
def exampleCalls : List (PortAttr × SendCall) :=
  [(exampleAttr, .send [7] true true), (exampleAttr, .tick), (exampleAttr, .receive (exampleAck 1))]

def exampleSender : Sender :=
  exampleCalls.foldl (fun sender label => sender.call label.1 label.2) (Sender.start exampleAttr)

/-- A PDU that is acknowledged goes with the next tick. -/
theorem removed_after_ack : ∃ sender, Run (Guarded Prompt SendStep) (Sender.start exampleAttr)
    (exampleCalls ++ [(exampleAttr, .tick)]) sender ∧
      sender.list = [] ∧ sender.transmitted = [0] ∧ sender.Right := by
  have small : exampleAttr.ecpMaxTries < 256 := by decide
  have answer : Prompt (((Sender.start exampleAttr).call exampleAttr (.send [7] true true)).call
      exampleAttr .tick) (exampleAttr, .receive (exampleAck 1)) := by
    intro ack read _ zero
    have number : (exampleAck 1).accepted.map (·.sequence) = some 1 := by decide
    rw [read, Option.map_some, zero] at number
    cases number
  have run : Run (Guarded Prompt SendStep) (Sender.start exampleAttr)
      (exampleCalls ++ [(exampleAttr, .tick)]) (exampleSender.call exampleAttr .tick) := by
    refine (((Run.refl.snoc ⟨?_, send_step _ _ _ small⟩).snoc ⟨?_, send_step _ _ _ small⟩).snoc
      ⟨answer, send_step _ _ _ small⟩).snoc ⟨?_, send_step _ _ _ small⟩
    · trivial
    · exact fun e mem => absurd mem List.not_mem_nil
    · trivial
  exact ⟨_, run, by decide, by decide, (numbers_right_of_prompt run).1⟩

theorem list_send_tick {attr : PortAttr} (up : attr.evbTlvStatusSucc = true) (sender : Sender)
    (pTlv : List UInt8) :
    ∃ e, ((sender.insert attr pTlv true true).tick attr).list = e :: sender.list := by
  have list : (sender.insert attr pTlv true true).ecp.lstEcpULPDUtx = _ := list_insert pTlv
  rw [list_tick, ecpTxLoopTimerHandler, up, if_neg (by decide), list]
  exact ⟨_, rfl⟩

/-- As long as something is sent before every tick, what was sent before stays. -/
theorem stays_below {attr : PortAttr} (up : attr.evbTlvStatusSucc = true)
    (small : attr.ecpMaxTries < 256) {sender : Sender} {e : TagEcpULPDU} (mem : e ∈ sender.list)
    (n : ℕ) : ∃ labels next, Run SendStep sender labels next ∧
      labels.countP (·.2.isTick) = n ∧ e ∈ next.list := by
  induction n with
  | zero => exact ⟨[], sender, .refl, rfl, mem⟩
  | succ n ih =>
      obtain ⟨labels, next, run, ticks, there⟩ := ih
      obtain ⟨first, list⟩ := list_send_tick up next [7]
      refine ⟨_, _, (run.snoc (send_step attr _ (.send [7] true true) small)).snoc
        (send_step attr _ .tick small), ?_, ?_⟩
      · rw [List.countP_append, List.countP_append, ticks]
        rfl
      · have stays : e ∈ first :: next.list := List.mem_cons_of_mem first there
        rw [← list] at stays
        exact stays

/-- A PDU that was acknowledged need not be removed. -/
theorem never_removed : ¬ ∀ attr labels sender, Run SendStep (Sender.start attr) labels sender →
    sender.Right ∧ Removes SendStep sender ∧
      ∀ label next, SendStep sender label next → OnlyNamed sender label next := by
  intro all
  have small : exampleAttr.ecpMaxTries < 256 := by decide
  have run : Run SendStep (Sender.start exampleAttr) exampleCalls exampleSender :=
    ((Run.refl.snoc (send_step _ _ _ small)).snoc (send_step _ _ _ small)).snoc
      (send_step _ _ _ small)
  have found : ∃ e ∈ exampleSender.list, e.txState = .waitForReq := by decide
  obtain ⟨e, mem, done⟩ := found
  obtain ⟨n, gone⟩ := (all _ _ _ run).2.1 e mem done
  have up : exampleAttr.evbTlvStatusSucc = true := rfl
  obtain ⟨labels, next, later, ticks, there⟩ := stays_below up small mem n
  exact gone labels next later (Nat.le_of_eq ticks.symm) e there rfl

end Examples

end Tecs.Ecp.Sequence
