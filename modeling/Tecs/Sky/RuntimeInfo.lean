import Tecs.Library.Run
import Tecs.Sky.Errcode

set_option autoImplicit false

/-! Requests for the running information of processes that others cannot reach: each carries the
route of hops it is handed along, and the answers carry it back. -/

namespace Tecs.RuntimeInfo

open Transition

section Definitions

/-- The unit of the message agent itself. -/
def MESSAGE_AGENT : String := "*"

structure MID where
  application : String
  process : String
  unit : String
deriving Repr, DecidableEq

inductive Body
  | req (messageRoute : List MID) (processes : List String)
  | ack (messageRoute : List MID)
deriving Repr, DecidableEq

structure MessageFrame where
  sender : MID
  receiver : MID
  body : Body
deriving Repr, DecidableEq

/-- Where the agent finds its own application in a route. -/
def myOrder (application : String) (messageRoute : List MID) : ℕ :=
  messageRoute.findIdx fun hop => hop.application == application

/-- `DealSysMessage` of the agent of a process: what it answers and the messages that it sends.
They are sent as long as sending succeeds, which it does here. -/
def dealSysMessage (application process : String) (message : MessageFrame) :
    Status × List MessageFrame :=
  let self : MID := ⟨application, process, MESSAGE_AGENT⟩
  match message.body with
  | .req messageRoute processes =>
      let order := myOrder application messageRoute
      if order = messageRoute.length then (.errorBadAddress, [])
      else
        match messageRoute[order + 1]? with
        | none => (.success, [⟨self, message.sender, .ack messageRoute⟩])
        | some receiver =>
            if receiver.process ≠ "" then (.success, [⟨self, receiver, message.body⟩])
            else
              (.success, processes.map fun process =>
                ⟨self, { receiver with process, unit := MESSAGE_AGENT }, message.body⟩)
  | .ack messageRoute =>
      let order := myOrder application messageRoute
      if order = messageRoute.length then (.errorBadAddress, [])
      else if 0 < order then
        (.success, (messageRoute[order - 1]?.map fun receiver =>
          ⟨self, receiver, message.body⟩).toList)
      else (.success, [])

/-- Processes have names, and `group` is not one of them: it marks multicast messages. -/
def IsProcess (process : String) : Prop := process ≠ "" ∧ process ≠ "group"

instance (process : String) : Decidable (IsProcess process) :=
  inferInstanceAs (Decidable (_ ∧ _))

/-- What the message sets off where it arrives; a unit other than the agent keeps it. -/
def sends (message : MessageFrame) : List MessageFrame :=
  if IsProcess message.receiver.process ∧ message.receiver.unit = MESSAGE_AGENT then
    (dealSysMessage message.receiver.application message.receiver.process message).2
  else []

inductive Kind
  | req | ack
deriving Repr, DecidableEq

def MessageFrame.kind (message : MessageFrame) : Kind :=
  match message.body with
  | .req .. => .req
  | .ack _ => .ack

/-- An arrival of a request or of an acknowledgement at an application. -/
abbrev Visit := Kind × String

def MessageFrame.visit (message : MessageFrame) : Visit :=
  (message.kind, message.receiver.application)

/-- Every copy of a message makes the visits in their order and no others, and the last one brings
it to the requester. -/
def Follows (requester : MID) (message : MessageFrame) : List Visit → Prop
  | [] => False
  | [last] =>
      IsProcess message.receiver.process ∧ message.visit = last ∧ message.receiver = requester ∧
        sends message = []
  | visit :: next :: rest =>
      IsProcess message.receiver.process ∧ message.visit = visit ∧ sends message ≠ [] ∧
        ∀ sent ∈ sends message, Follows requester sent (next :: rest)

instance Follows.decidable (requester : MID) :
    (message : MessageFrame) → (visits : List Visit) → Decidable (Follows requester message visits)
  | _, [] => isFalse id
  | message, [_] => inferInstanceAs (Decidable (_ ∧ _ ∧ _ ∧ sends message = []))
  | message, _ :: next :: rest =>
      have := fun sent => Follows.decidable requester sent (next :: rest)
      inferInstanceAs (Decidable (_ ∧ _ ∧ _ ∧ ∀ sent ∈ sends message, _))

/-- The hops that the request comes to one after the other, and the way back of the answer. -/
def visits (requester : MID) (hops : List MID) : List Visit :=
  hops.map (fun hop => (.req, hop.application)) ++
    hops.dropLast.reverse.map (fun hop => (.ack, hop.application)) ++
    [(.ack, requester.application)]

/-- `AppRuntimeInfoReq` as the query methods make it, with the unit that waits for the answers and
the process of the first hop; a route of more than one hop starts with that unit. -/
structure RuntimeInfoQuery where
  requester : MID
  hoppro : String
  messageRoute : List MID
  processes : List String
  running : IsProcess requester.process
  hop : IsProcess hoppro
  named : ∀ process ∈ processes, IsProcess process
  asked : processes ≠ []
  routed : messageRoute ≠ []
  addressed : 1 < messageRoute.length → messageRoute.head? = some requester

/-- The hops that a request has to come to. -/
def RuntimeInfoQuery.hops (query : RuntimeInfoQuery) : List MID :=
  if 1 < query.messageRoute.length then query.messageRoute.tail else query.messageRoute

/-- The messages that `Query` sends. -/
def RuntimeInfoQuery.send (query : RuntimeInfoQuery) : List MessageFrame :=
  let hopname := (query.hops.head?.map (·.application)).getD ""
  let processes := if 1 < query.messageRoute.length then [query.hoppro] else query.processes
  processes.map fun process =>
    ⟨query.requester, ⟨hopname, process, MESSAGE_AGENT⟩,
      .req query.messageRoute query.processes⟩

/-- The request comes to the hops in order and the answers come back the same way. -/
def RuntimeInfoQuery.Right (query : RuntimeInfoQuery) : Prop :=
  query.send ≠ [] ∧
    ∀ sent ∈ query.send, Follows query.requester sent (visits query.requester query.hops)

/-- A hop that names a message agent. -/
def MID.IsAgent (hop : MID) : Prop := IsProcess hop.process ∧ hop.unit = MESSAGE_AGENT

/-- No application twice; from the third hop on each names an agent or no process at all; and
those that an answer is handed to by the route name an agent. -/
structure RouteFits (messageRoute : List MID) : Prop where
  once : (messageRoute.map (·.application)).Nodup
  forth : ∀ j hop, 2 ≤ j → messageRoute[j]? = some hop → hop.process = "" ∨ hop.IsAgent
  back : ∀ i hop, 1 ≤ i → i + 3 ≤ messageRoute.length → messageRoute[i]? = some hop → hop.IsAgent

/-- The requests from a position of the route on. -/
def reqVisits (messageRoute : List MID) (j : ℕ) : List Visit :=
  (messageRoute.drop j).map fun hop => (.req, hop.application)

/-- The answers from a position of the route back to its start. -/
def ackVisits (messageRoute : List MID) (i : ℕ) : List Visit :=
  (messageRoute.take (i + 1)).reverse.map fun hop => (.ack, hop.application)

end Definitions

section Positions

variable {route : List MID} {hop : MID} {i j : ℕ}

theorem reqVisits_cons (there : route[j]? = some hop) :
    reqVisits route j = (.req, hop.application) :: reqVisits route (j + 1) := by
  have ⟨inside, same⟩ := List.getElem?_eq_some_iff.mp there
  rw [reqVisits, List.drop_eq_getElem_cons inside, same, List.map_cons, reqVisits]

theorem reqVisits_end : reqVisits route route.length = [] := by
  rw [reqVisits, List.drop_length, List.map_nil]

theorem ackVisits_succ (there : route[i + 1]? = some hop) :
    ackVisits route (i + 1) = (.ack, hop.application) :: ackVisits route i := by
  rw [ackVisits, List.take_add_one, there, Option.toList_some, List.reverse_append,
    List.reverse_singleton, List.singleton_append, List.map_cons, ackVisits]

theorem ackVisits_zero (there : route[0]? = some hop) :
    ackVisits route 0 = [(.ack, hop.application)] := by
  rw [ackVisits, List.take_add_one, there, List.take_zero]
  rfl

theorem ackVisits_ne_nil (inside : i < route.length) : ackVisits route i ≠ [] := by
  rw [ackVisits, ne_eq, List.map_eq_nil_iff, List.reverse_eq_nil_iff, List.take_eq_nil_iff]
  intro short
  cases short with
  | inl zero => omega
  | inr empty =>
      rw [empty] at inside
      exact absurd inside (Nat.not_lt_zero _)

/-- The agent takes the first place at which its application stands. -/
theorem myOrder_le (there : route[i]? = some hop) : myOrder hop.application route ≤ i := by
  have ⟨inside, same⟩ := List.getElem?_eq_some_iff.mp there
  by_contra later
  have other := List.not_of_lt_findIdx (Nat.lt_of_not_le later)
  rw [same] at other
  exact absurd (beq_self_eq_true hop.application) (Bool.eq_false_iff.mp other)

theorem myOrder_spec {application : String} (found : myOrder application route < route.length) :
    (route[myOrder application route]).application = application :=
  eq_of_beq (List.findIdx_getElem (w := found))

theorem myOrder_of_once (once : (route.map (·.application)).Nodup)
    (there : route[i]? = some hop) : myOrder hop.application route = i := by
  have ⟨inside, same⟩ := List.getElem?_eq_some_iff.mp there
  have first := myOrder_le there
  have found : myOrder hop.application route < route.length := by omega
  have equal := myOrder_spec found
  apply (List.getElem?_inj (by rwa [List.length_map]) once).mp
  rw [List.getElem?_map, List.getElem?_map, there, List.getElem?_eq_getElem found,
    Option.map_some, Option.map_some, equal]

end Positions

section Steps

variable {requester : MID} {message : MessageFrame} {route : List MID} {processes : List String}
  {i : ℕ}

theorem follows_cons {visit : Visit} {rest : List Visit} (more : rest ≠ []) :
    Follows requester message (visit :: rest) ↔
      IsProcess message.receiver.process ∧ message.visit = visit ∧ sends message ≠ [] ∧
        ∀ sent ∈ sends message, Follows requester sent rest := by
  cases rest with
  | nil => exact absurd rfl more
  | cons next rest => rfl

theorem follows_visit {visit : Visit} {rest : List Visit}
    (follows : Follows requester message (visit :: rest)) :
    IsProcess message.receiver.process ∧ message.visit = visit := by
  cases rest with
  | nil => exact ⟨follows.1, follows.2.1⟩
  | cons next rest => exact ⟨follows.1, follows.2.1⟩

/-- A copy of a message that arrives, and one of the messages that this sets off. -/
def Forward (message : MessageFrame) (visit : Visit) (sent : MessageFrame) : Prop :=
  message.visit = visit ∧ sent ∈ sends message

/-- However the copies are followed, what they have visited is a part of the visits from the
first on, and something is always left: they stop after as many steps. -/
theorem follows_run {labels : List Visit} {last : MessageFrame} {visits : List Visit}
    (follows : Follows requester message visits) (run : Run Forward message labels last) :
    ∃ rest, visits = labels ++ rest ∧ Follows requester last rest := by
  induction run with
  | refl => exact ⟨visits, rfl, follows⟩
  | @snoc labels current sent visit _ taken ih =>
      have ⟨rest, split, onward⟩ := ih
      have ⟨here, member⟩ := taken
      cases rest with
      | nil => exact absurd onward id
      | cons next rest =>
          have same : next = visit := (follows_visit onward).2.symm.trans here
          cases rest with
          | nil =>
              rw [onward.2.2.2] at member
              exact absurd member List.not_mem_nil
          | cons other rest =>
              refine ⟨other :: rest, ?_, onward.2.2.2 sent member⟩
              rw [split, same, List.append_assoc, List.singleton_append]

/-- The message that an agent hands on or answers. -/
def MessageFrame.self (message : MessageFrame) : MID :=
  ⟨message.receiver.application, message.receiver.process, MESSAGE_AGENT⟩

theorem agent_of_sends (more : sends message ≠ []) : message.receiver.IsAgent := by
  by_contra other
  exact more (if_neg other)

variable (agent : message.receiver.IsAgent)
include agent

theorem sends_agent :
    sends message =
      (dealSysMessage message.receiver.application message.receiver.process message).2 :=
  if_pos agent

theorem sends_last (body : message.body = .req route processes)
    (found : myOrder message.receiver.application route = i) (last : route.length = i + 1) :
    sends message = [⟨message.self, message.sender, .ack route⟩] := by
  have inside : i ≠ route.length := by omega
  have beyond : route[i + 1]? = none := List.getElem?_eq_none last.le
  rw [sends_agent agent, dealSysMessage]
  simp only [body, found, if_neg inside, beyond]
  rfl

theorem sends_process {receiver : MID} (body : message.body = .req route processes)
    (found : myOrder message.receiver.application route = i)
    (there : route[i + 1]? = some receiver) (process : receiver.process ≠ "") :
    sends message = [⟨message.self, receiver, .req route processes⟩] := by
  have inside : i ≠ route.length := by
    have ⟨within, _⟩ := List.getElem?_eq_some_iff.mp there
    omega
  rw [sends_agent agent, dealSysMessage]
  simp only [body, found, if_neg inside, there, if_pos process]
  rfl

theorem sends_all {receiver : MID} (body : message.body = .req route processes)
    (found : myOrder message.receiver.application route = i)
    (there : route[i + 1]? = some receiver) (process : receiver.process = "") :
    sends message = processes.map fun process =>
      ⟨message.self, ⟨receiver.application, process, MESSAGE_AGENT⟩, .req route processes⟩ := by
  have inside : i ≠ route.length := by
    have ⟨within, _⟩ := List.getElem?_eq_some_iff.mp there
    omega
  rw [sends_agent agent, dealSysMessage]
  simp only [body, found, if_neg inside, there, if_neg (not_not.mpr process)]
  rfl

theorem sends_unknown (body : message.body = .req route processes)
    (absent : myOrder message.receiver.application route = route.length) :
    sends message = [] := by
  rw [sends_agent agent, dealSysMessage]
  simp only [body, if_pos absent]

theorem sends_back {receiver : MID} (body : message.body = .ack route)
    (found : myOrder message.receiver.application route = i + 1) (within : i + 1 < route.length)
    (there : route[i]? = some receiver) :
    sends message = [⟨message.self, receiver, .ack route⟩] := by
  have inside : i + 1 ≠ route.length := by omega
  rw [sends_agent agent, dealSysMessage]
  simp only [body, found, if_neg inside, if_pos (Nat.succ_pos i), Nat.add_sub_cancel, there]
  rfl

theorem sends_none (body : message.body = .ack route)
    (found : myOrder message.receiver.application route = 0) :
    sends message = [] := by
  rw [sends_agent agent, dealSysMessage]
  simp only [body, found, Nat.lt_irrefl, if_false]
  split <;> rfl

end Steps

section Forwarding

variable {requester : MID} {route : List MID} {processes : List String}

/-- The answer goes back hop by hop; the induction is on the place in the route it has come to. -/
theorem ack_follows (fits : RouteFits route) (running : IsProcess requester.process)
    (head : route[0]? = some requester) {i : ℕ} :
    ∀ (message : MessageFrame) (hop : MID), message.body = .ack route → i + 2 ≤ route.length →
      route[i]? = some hop → message.receiver.application = hop.application →
      IsProcess message.receiver.process → (i = 0 → message.receiver = requester) →
      (0 < i → message.receiver.unit = MESSAGE_AGENT) →
      Follows requester message (ackVisits route i) := by
  induction i with
  | zero =>
      intro message hop body _ there application process receiver _
      rw [ackVisits_zero there]
      refine ⟨process, ?_, receiver rfl, ?_⟩
      · rw [MessageFrame.visit, MessageFrame.kind, body, application]
      · by_contra more
        have agent := agent_of_sends more
        exact more (sends_none agent body (application ▸ myOrder_of_once fits.once there))
  | succ i ih =>
      intro message hop body within there application process _ unit
      have agent : message.receiver.IsAgent := ⟨process, unit (Nat.succ_pos i)⟩
      obtain ⟨receiver, back⟩ : ∃ receiver, route[i]? = some receiver :=
        ⟨route[i], List.getElem?_eq_getElem (by omega)⟩
      have sent := sends_back agent body (application ▸ myOrder_of_once fits.once there)
        (by omega) back
      rw [ackVisits_succ there, follows_cons (ackVisits_ne_nil (by omega)), sent]
      refine ⟨process, ?_, List.cons_ne_nil _ _, ?_⟩
      · rw [MessageFrame.visit, MessageFrame.kind, body, application]
      · rw [List.forall_mem_singleton]
        apply ih _ receiver rfl (by omega) back rfl
        · cases i with
          | zero =>
              rw [head] at back
              exact Option.some.inj back ▸ running
          | succ i => exact (fits.back (i + 1) receiver (by omega) (by omega) back).1
        · intro zero
          rw [zero, head] at back
          exact (Option.some.inj back).symm
        · intro positive
          exact (fits.back i receiver positive (by omega) back).2

/-- The request goes on hop by hop; the induction is on the number of hops that are left. -/
theorem req_follows (fits : RouteFits route) (running : IsProcess requester.process)
    (named : ∀ process ∈ processes, IsProcess process) (asked : processes ≠ [])
    (head : route[0]? = some requester) (left : ℕ) :
    ∀ (j : ℕ) (message : MessageFrame) (hop : MID), j + 2 + left = route.length →
      message.body = .req route processes → route[j + 1]? = some hop →
      message.receiver.application = hop.application → message.receiver.IsAgent →
      (j = 0 → message.sender = requester) →
      (0 < j → message.sender.IsAgent ∧
        route[j]?.map (·.application) = some message.sender.application) →
      Follows requester message
        (reqVisits route (j + 1) ++ ackVisits route (route.length - 2)) := by
  induction left with
  | zero =>
      intro j message hop last body there application agent first later
      have order : myOrder message.receiver.application route = j + 1 :=
        application ▸ myOrder_of_once fits.once there
      have sent := sends_last agent body order last.symm
      have place : route.length - 2 = j := by omega
      have finish : reqVisits route (j + 1 + 1) = [] := by
        rw [show j + 1 + 1 = route.length by omega]
        exact reqVisits_end
      rw [reqVisits_cons there, finish, place, List.singleton_append,
        follows_cons (ackVisits_ne_nil (by omega)), sent]
      refine ⟨agent.1, ?_, List.cons_ne_nil _ _, ?_⟩
      · rw [MessageFrame.visit, MessageFrame.kind, body, application]
      rw [List.forall_mem_singleton]
      cases j with
      | zero =>
          refine ack_follows fits running head _ requester rfl (by omega) head ?_ ?_ ?_ ?_
          · exact congrArg MID.application (first rfl)
          · exact first rfl ▸ running
          · exact fun _ => first rfl
          · exact fun positive => absurd positive (Nat.lt_irrefl 0)
      | succ j =>
          have ⟨sender, before⟩ := later (Nat.succ_pos j)
          have ⟨back, earlier, same⟩ := Option.map_eq_some_iff.mp before
          refine ack_follows fits running head _ back rfl (by omega) earlier same.symm
            sender.1 ?_ ?_
          · exact fun zero => absurd zero (Nat.succ_ne_zero j)
          · exact fun _ => sender.2
  | succ left ih =>
      intro j message hop more body there application agent first later
      have order : myOrder message.receiver.application route = j + 1 :=
        application ▸ myOrder_of_once fits.once there
      obtain ⟨receiver, next⟩ : ∃ receiver, route[j + 1 + 1]? = some receiver :=
        ⟨route[j + 1 + 1], List.getElem?_eq_getElem (by omega)⟩
      have goes (sent : MessageFrame) (sender : sent.sender = message.self)
          (body : sent.body = .req route processes)
          (application' : sent.receiver.application = receiver.application)
          (agent' : sent.receiver.IsAgent) :
          Follows requester sent
            (reqVisits route (j + 1 + 1) ++ ackVisits route (route.length - 2)) := by
        refine ih (j + 1) sent receiver (by omega) body next application' agent' ?_ ?_
        · exact fun zero => absurd zero (Nat.succ_ne_zero j)
        · intro _
          rw [sender, there, Option.map_some, MessageFrame.self, application]
          exact ⟨⟨agent.1, rfl⟩, rfl⟩
      have rest : reqVisits route (j + 1 + 1) ++ ackVisits route (route.length - 2) ≠ [] :=
        List.append_ne_nil_of_right_ne_nil _ (ackVisits_ne_nil (by omega))
      rw [reqVisits_cons there, List.cons_append, follows_cons rest]
      refine ⟨agent.1, ?_, ?_⟩
      · rw [MessageFrame.visit, MessageFrame.kind, body, application]
      by_cases process : receiver.process = ""
      · rw [sends_all agent body order next process]
        refine ⟨fun none => asked (List.map_eq_nil_iff.mp none), ?_⟩
        rw [List.forall_mem_map]
        intro name member
        exact goes _ rfl rfl rfl ⟨named name member, rfl⟩
      · rw [sends_process agent body order next process]
        refine ⟨List.cons_ne_nil _ _, ?_⟩
        rw [List.forall_mem_singleton]
        have named := (fits.forth (j + 1 + 1) receiver (by omega) next).resolve_left process
        exact goes _ rfl rfl rfl named

end Forwarding

section Required

variable {requester : MID} {route : List MID} {processes : List String}

/-- What an agent that handles a request in the route hands on: an answer from the last place, or
the request for the hop after its own. -/
theorem sends_cases {message : MessageFrame} (body : message.body = .req route processes)
    {sent : MessageFrame} (member : sent ∈ sends message) :
    (sent.body = .ack route ∧
      route.length = myOrder message.receiver.application route + 1) ∨
    ∃ receiver, route[myOrder message.receiver.application route + 1]? = some receiver ∧
      sent.body = .req route processes ∧ sent.receiver.application = receiver.application ∧
      (receiver.process ≠ "" → sent.receiver = receiver) := by
  have agent := agent_of_sends (List.ne_nil_of_mem member)
  have within : myOrder message.receiver.application route ≤ route.length :=
    List.findIdx_le_length
  by_cases absent : myOrder message.receiver.application route = route.length
  · rw [sends_unknown agent body absent] at member
    exact absurd member List.not_mem_nil
  cases next : route[myOrder message.receiver.application route + 1]? with
  | none =>
      have beyond := List.getElem?_eq_none_iff.mp next
      rw [sends_last agent body rfl (by omega), List.mem_singleton] at member
      exact Or.inl ⟨by rw [member], by omega⟩
  | some receiver =>
      refine Or.inr ⟨receiver, rfl, ?_⟩
      by_cases process : receiver.process = ""
      · rw [sends_all agent body rfl next process] at member
        have ⟨name, _, same⟩ := List.mem_map.mp member
        rw [← same]
        exact ⟨rfl, rfl, fun named => absurd process named⟩
      · rw [sends_process agent body rfl next process, List.mem_singleton] at member
        rw [member]
        exact ⟨rfl, rfl, fun _ => rfl⟩

/-- What a request that follows the route from a place on says about the route. -/
structure Ahead (requester : MID) (route : List MID) (j : ℕ) : Prop where
  first : ∀ i hop, j ≤ i → route[i]? = some hop → myOrder hop.application route = i
  forth : ∀ i hop, j < i → route[i]? = some hop → hop.process = "" ∨ hop.IsAgent
  answer : ∃ sent : MessageFrame, sent.body = .ack route ∧
    Follows requester sent (ackVisits route (route.length - 2))

theorem follows_ahead (left : ℕ) :
    ∀ (j : ℕ) (message : MessageFrame) (hop : MID), j + 2 + left = route.length →
      message.body = .req route processes → route[j + 1]? = some hop →
      message.receiver.application = hop.application →
      Follows requester message (reqVisits route (j + 1) ++ ackVisits route (route.length - 2)) →
      Ahead requester route (j + 1) := by
  induction left with
  | zero =>
      intro j message hop last body there application follows
      have lower := myOrder_le there
      have finish : reqVisits route (j + 1 + 1) = [] := by
        rw [show j + 1 + 1 = route.length by omega]
        exact reqVisits_end
      have back : ackVisits route (route.length - 2) ≠ [] := ackVisits_ne_nil (by omega)
      rw [reqVisits_cons there, finish, List.singleton_append, follows_cons back] at follows
      have ⟨_, _, more, all⟩ := follows
      have ⟨sent, member⟩ := List.exists_mem_of_ne_nil _ more
      have rest := all sent member
      obtain ⟨answer, final⟩ | ⟨receiver, _, request, _⟩ := sends_cases body member
      · rw [application] at final
        refine ⟨?_, ?_, sent, answer, rest⟩
        · intro i hop' least place
          have ⟨inside, _⟩ := List.getElem?_eq_some_iff.mp place
          have same : i = j + 1 := by omega
          rw [same, there] at place
          rw [← Option.some.inj place]
          omega
        · intro i hop' later place
          have ⟨inside, _⟩ := List.getElem?_eq_some_iff.mp place
          omega
      · obtain ⟨visit, visits, split⟩ := List.exists_cons_of_ne_nil back
        rw [split] at rest
        have kind := congrArg Prod.fst (follows_visit rest).2
        have ack : visit.1 = .ack := by
          have member : visit ∈ ackVisits route (route.length - 2) := by
            rw [split]
            exact List.mem_cons_self
          have ⟨_, _, same⟩ := List.mem_map.mp member
          rw [← same]
        rw [MessageFrame.visit, MessageFrame.kind, request, ack] at kind
        cases kind
  | succ left ih =>
      intro j message hop more body there application follows
      obtain ⟨next, after⟩ : ∃ next, route[j + 1 + 1]? = some next :=
        ⟨route[j + 1 + 1], List.getElem?_eq_getElem (by omega)⟩
      have rest : reqVisits route (j + 1 + 1) ++ ackVisits route (route.length - 2) ≠ [] :=
        List.append_ne_nil_of_right_ne_nil _ (ackVisits_ne_nil (by omega))
      rw [reqVisits_cons there, List.cons_append, follows_cons rest] at follows
      have ⟨_, _, more', all⟩ := follows
      have ⟨sent, member⟩ := List.exists_mem_of_ne_nil _ more'
      have onward := all sent member
      have visit := onward
      rw [reqVisits_cons after, List.cons_append] at visit
      have ⟨process, same⟩ := follows_visit visit
      obtain ⟨answer, _⟩ | ⟨receiver, place, request, toward, named⟩ := sends_cases body member
      · have kind := congrArg Prod.fst same
        rw [MessageFrame.visit, MessageFrame.kind, answer] at kind
        cases kind
      have ahead := ih (j + 1) sent next (by omega) request after
        (congrArg Prod.snd same) onward
      -- the hop that was found carries the name of the next one, which stands there first
      have found : receiver.application = next.application := toward ▸ congrArg Prod.snd same
      have least := myOrder_le place
      rw [found, ahead.first (j + 1 + 1) next le_rfl after] at least
      have lower := myOrder_le there
      rw [application] at least place
      have order : myOrder hop.application route = j + 1 := by omega
      rw [order, after] at place
      have equal := Option.some.inj place
      refine ⟨?_, ?_, ahead.answer⟩
      · intro i hop' later there'
        obtain same | later : i = j + 1 ∨ j + 1 + 1 ≤ i := by omega
        · rw [same, there] at there'
          rw [← Option.some.inj there', order, same]
        · exact ahead.first i hop' later there'
      · intro i hop' later there'
        obtain same | later : i = j + 1 + 1 ∨ j + 1 + 1 < i := by omega
        · rw [same, after] at there'
          rw [← Option.some.inj there']
          by_cases empty : next.process = ""
          · exact Or.inl empty
          · refine Or.inr ?_
            have receives := named (equal ▸ empty)
            rw [← equal] at receives
            have back : reqVisits route (j + 1 + 1 + 1) ++
                ackVisits route (route.length - 2) ≠ [] :=
              List.append_ne_nil_of_right_ne_nil _ (ackVisits_ne_nil (by omega))
            have goes := (follows_cons back).mp visit
            exact receives ▸ agent_of_sends goes.2.2.1
        · exact ahead.forth i hop' later there'

/-- The hops that an answer is handed to by the route are agents, but the first. -/
theorem follows_back (once : (route.map (·.application)).Nodup) {i : ℕ} :
    ∀ message : MessageFrame, message.body = .ack route → i < route.length →
      Follows requester message (ackVisits route i) →
      ∀ k hop, 1 ≤ k → k < i → route[k]? = some hop → hop.IsAgent := by
  induction i with
  | zero => exact fun _ _ _ _ k _ _ below => absurd below (Nat.not_lt_zero k)
  | succ i ih =>
      intro message body within follows k hop positive below there
      obtain ⟨own, place⟩ : ∃ own, route[i + 1]? = some own :=
        ⟨route[i + 1], List.getElem?_eq_getElem within⟩
      obtain ⟨receiver, back⟩ : ∃ receiver, route[i]? = some receiver :=
        ⟨route[i], List.getElem?_eq_getElem (by omega)⟩
      rw [ackVisits_succ place, follows_cons (ackVisits_ne_nil (by omega))] at follows
      have ⟨_, visit, more, all⟩ := follows
      have application : message.receiver.application = own.application :=
        congrArg Prod.snd visit
      rw [sends_back (agent_of_sends more) body (application ▸ myOrder_of_once once place) within
        back, List.forall_mem_singleton] at all
      obtain same | lower : k = i ∨ k < i := by omega
      · cases i with
        | zero => omega
        | succ i =>
            rw [ackVisits_succ back, follows_cons (ackVisits_ne_nil (by omega))] at all
            rw [same, back] at there
            exact Option.some.inj there ▸ agent_of_sends all.2.2.1
      · exact ih _ rfl (by omega) all k hop positive lower there

end Required

section Agreement

variable {requester : MID} {route : List MID}

theorem visits_eq (long : 1 < route.length) (head : route.head? = some requester) :
    visits requester route.tail = reqVisits route 1 ++ ackVisits route (route.length - 2) := by
  obtain ⟨hops, rfl⟩ := List.head?_eq_some_iff.mp head
  have count : hops.length ≠ 0 := by
    rw [List.length_cons] at long
    omega
  have taken : (requester :: hops).take ((requester :: hops).length - 2 + 1) =
      requester :: hops.dropLast := by
    rw [List.take_succ_cons, List.dropLast_eq_take, List.length_cons]
    rfl
  rw [ackVisits, taken, reqVisits, visits, List.tail_cons, List.drop_one, List.tail_cons,
    List.reverse_cons, List.map_append, List.append_assoc]
  rfl

theorem once_of_first
    (first : ∀ i hop, 1 ≤ i → route[i]? = some hop → myOrder hop.application route = i) :
    (route.map (·.application)).Nodup := by
  rw [List.nodup_iff_getElem?_ne_getElem?]
  intro i j below inside same
  rw [List.length_map] at inside
  rw [List.getElem?_map, List.getElem?_map, List.getElem?_eq_getElem inside,
    List.getElem?_eq_getElem (Nat.lt_trans below inside)] at same
  have equal : route[i].application = route[j].application := Option.some.inj same
  have place := first j route[j] (by omega) (List.getElem?_eq_getElem inside)
  have least := myOrder_le (List.getElem?_eq_getElem (Nat.lt_trans below inside))
  rw [equal, place] at least
  omega

/-- An answer along a route of one hop is not handed on. -/
theorem sends_single {message : MessageFrame} {hop : MID} (body : message.body = .ack [hop]) :
    sends message = [] := by
  by_contra more
  have agent := agent_of_sends more
  have within : myOrder message.receiver.application [hop] ≤ 1 := List.findIdx_le_length
  obtain first | absent : myOrder message.receiver.application [hop] = 0 ∨
      myOrder message.receiver.application [hop] = 1 := by omega
  · exact more (sends_none agent body first)
  · apply more
    rw [sends_agent agent, dealSysMessage]
    simp only [body, absent, List.length_singleton, if_true]

/-- A request comes to its hops in order, and the answers come back, exactly when the route
fits. -/
theorem runtimeInfo_right_iff (query : RuntimeInfoQuery) :
    query.Right ↔ RouteFits query.messageRoute := by
  by_cases long : 1 < query.messageRoute.length
  · have head := query.addressed long
    have zero : query.messageRoute[0]? = some query.requester := by
      rw [← List.head?_eq_getElem?]
      exact head
    obtain ⟨hop, first⟩ : ∃ hop, query.messageRoute[0 + 1]? = some hop :=
      ⟨query.messageRoute[1], List.getElem?_eq_getElem long⟩
    have hops : query.hops = query.messageRoute.tail := if_pos long
    have named : query.hops.head? = some hop := by
      rw [hops, List.head?_tail]
      exact first
    have send : query.send = [⟨query.requester, ⟨hop.application, query.hoppro, MESSAGE_AGENT⟩,
        .req query.messageRoute query.processes⟩] := by
      rw [RuntimeInfoQuery.send, named, if_pos long]
      rfl
    rw [RuntimeInfoQuery.Right, send, hops, visits_eq long head, List.forall_mem_singleton]
    constructor
    · intro right
      have ahead := follows_ahead (query.messageRoute.length - 2) 0 _ hop (by omega) rfl
        first rfl right.2
      have once := once_of_first ahead.first
      refine ⟨once, fun j hop later there => ahead.forth j hop later there, ?_⟩
      intro i hop' positive below there
      have ⟨sent, answer, back⟩ := ahead.answer
      exact follows_back once sent answer (by omega) back i hop' positive (by omega) there
    · intro fits
      refine ⟨List.cons_ne_nil _ _, ?_⟩
      apply req_follows fits query.running query.named query.asked zero
        (query.messageRoute.length - 2) 0 _ hop (by omega) rfl first rfl ⟨query.hop, rfl⟩
      · exact fun _ => rfl
      · exact fun positive => absurd positive (Nat.lt_irrefl 0)
  · have hops : query.hops = query.messageRoute := if_neg long
    obtain ⟨hop, route⟩ : ∃ hop, query.messageRoute = [hop] := by
      rw [← List.length_eq_one_iff]
      have positive := List.length_pos_of_ne_nil query.routed
      omega
    have send : query.send = query.processes.map fun process =>
        ⟨query.requester, ⟨hop.application, process, MESSAGE_AGENT⟩,
          .req query.messageRoute query.processes⟩ := by
      rw [RuntimeInfoQuery.send, hops, if_neg long, route]
      rfl
    apply iff_of_true
    · rw [RuntimeInfoQuery.Right, send, hops, List.forall_mem_map]
      refine ⟨fun none => query.asked (List.map_eq_nil_iff.mp none), ?_⟩
      intro process member
      rw [route]
      have agent : (⟨hop.application, process, MESSAGE_AGENT⟩ : MID).IsAgent :=
        ⟨query.named process member, rfl⟩
      have found : myOrder hop.application [hop] = 0 := by
        rw [myOrder, List.findIdx_cons, beq_self_eq_true, cond_true]
      refine ⟨agent.1, rfl, ?_, ?_⟩
      · rw [sends_last agent rfl found rfl]
        exact List.cons_ne_nil _ _
      · rw [sends_last agent rfl found rfl, List.forall_mem_singleton]
        exact ⟨query.running, rfl, rfl, sends_single rfl⟩
    · rw [route]
      refine ⟨by simp, fun j _ later there => ?_, fun i _ _ within _ => ?_⟩
      · have ⟨inside, _⟩ := List.getElem?_eq_some_iff.mp there
        rw [List.length_singleton] at inside
        omega
      · rw [List.length_singleton] at within
        omega

end Agreement

section Example

def tmu : MID := ⟨"tc", "pc", "tmu"⟩
def ccHop : MID := ⟨"cc", "pcc", MESSAGE_AGENT⟩
def hcHop : MID := ⟨"hc", "phc", MESSAGE_AGENT⟩

/-- The route comes to the first application again. -/
def repeated : RuntimeInfoQuery where
  requester := tmu
  hoppro := "pcc"
  messageRoute := [tmu, ccHop, hcHop, ccHop]
  processes := ["pcc"]
  running := by decide
  hop := by decide
  named := by decide
  asked := by decide
  routed := by decide
  addressed _ := rfl

/-- The request goes to and fro between the two hops: what one sends is what the other takes, and
nobody collects anything. -/
theorem repeated_goes_round :
    sends ⟨ccHop, hcHop, .req repeated.messageRoute repeated.processes⟩ =
        [⟨hcHop, ccHop, .req repeated.messageRoute repeated.processes⟩] ∧
      sends ⟨hcHop, ccHop, .req repeated.messageRoute repeated.processes⟩ =
        [⟨ccHop, hcHop, .req repeated.messageRoute repeated.processes⟩] ∧
      sends ⟨tmu, ccHop, .req repeated.messageRoute repeated.processes⟩ =
        [⟨ccHop, hcHop, .req repeated.messageRoute repeated.processes⟩] ∧
      ¬ repeated.Right := by
  refine ⟨by decide, by decide, by decide, fun right => ?_⟩
  have follows := right.2 ⟨tmu, ccHop, .req repeated.messageRoute repeated.processes⟩
    List.mem_cons_self
  exact absurd follows (by decide)

end Example

end Tecs.RuntimeInfo
