import Tecs.Sky.Errcode
import Tecs.Library.Precedence

set_option autoImplicit false

namespace Tecs

/-- The fields of a deserialised request that the engine reads. -/
structure WorkReq where
  actionId : String
  retry : Bool

/-- A deserialised acknowledgement. -/
structure WorkAck where
  actionId : String
  state : Int
  progress : Int
  detail : String

def WorkAck.validate (ack : WorkAck) : Bool :=
  !(decide (ack.progress < 0) || decide (100 < ack.progress)) && ack.actionId != ""

structure Action where
  category : String
  name : String
  rollbackActionId : String
  sender : String
  receiver : String
  messageId : Int
  messagePriority : Int
  messageVersion : Int
  messageReq : WorkReq
  messageAck : WorkAck
  successFeedback : Int
  failureFeedback : Int
  timeoutFeedback : Int
  timeout : Int
  progressWeight : Int
  skipped : Bool
  synchronous : Bool
  actionId : String
  workflowId : String
  workflowEngine : Int
  workflowPaused : Bool
  messageAckId : Int
  messageAckPriority : Int
  messageAckVersion : Int
  finished : Bool
  historyRepeatCount : Int
  state : Int
  progress : Int

/-- The constructor with `Init()`; the id comes from `GenerateUUID`. -/
def Action.init (category name : String) (messageId : Int) (sender receiver : String)
    (actionId : String) : Action where
  category := category
  name := name
  rollbackActionId := ""
  sender := sender
  receiver := receiver
  messageId := messageId
  messagePriority := 0
  messageVersion := 0
  messageReq := ⟨"", false⟩
  messageAck := ⟨"", Status.error, 0, ""⟩
  successFeedback := 1
  failureFeedback := 1
  timeoutFeedback := 1
  timeout := 0
  progressWeight := 1
  skipped := false
  synchronous := true
  actionId := actionId
  workflowId := ""
  workflowEngine := 0
  workflowPaused := false
  messageAckId := 0
  messageAckPriority := 0
  messageAckVersion := 0
  finished := false
  historyRepeatCount := 0
  state := Status.errorActionReady
  progress := 0

def Action.setMessageReq (action : Action) (req : WorkReq) : Action :=
  { action with messageReq := { req with actionId := action.actionId } }

/-- `0 == id.compare(0,2,tag)` for a tag of two characters. -/
def hasTag (tag : List Char) (id : String) : Bool :=
  id.toList.take 2 == tag

def isActionId (id : String) : Bool := hasTag ['a', '-'] id

def isWorkflowId (id : String) : Bool := hasTag ['w', '-'] id

/-- Only lower case letters and underscore can be used. -/
def isValidName (name : String) : Bool :=
  name.toList.all fun c => (decide ('a' ≤ c) && decide (c ≤ 'z')) || c == '_'

def Action.validate (action : Action) : Bool :=
  if !isActionId action.actionId then false
  else if action.workflowId == "" then false
  else if action.workflowEngine < 0 then false
  else if action.category == "" then false
  else if action.name == "" then false
  else if !isValidName action.category then false
  else if !isValidName action.name then false
  else if action.successFeedback < 0 || action.failureFeedback <
    0 || action.timeoutFeedback < 0 then
    false
  else if action.messageId ≤ 0 then false
  else if action.messageReq.actionId == "" || action.messageReq.actionId !=
    action.actionId then false
  -- an action that is retried on failure cannot ask for failure feedback
  else if action.messageReq.retry && action.failureFeedback != 0 then false
  else if action.timeout < -1 then false
  else if action.progress < 0 then false
  else if action.progressWeight < 0 then false
  else if action.historyRepeatCount < 0 then false
  else true

structure ActionSequence where
  actionPrev : String
  actionNext : String
deriving DecidableEq

/-- A workflow as `Workflow::Add` builds it: no two actions share an id, and a
sequence joins two of its actions. -/
structure Workflow where
  category : String
  name : String
  upstreamSender : String
  upstreamActionId : String
  originator : String
  actions : List Action
  sequences : List ActionSequence
  workflowId : String
  rollbackWorkflowId : String
  engine : Int
  paused : Bool
  application : String
  process : String
  distinct : (actions.map Action.actionId).Nodup
  joined : ∀ s ∈ sequences, s.actionPrev ∈ actions.map Action.actionId ∧
    s.actionNext ∈ actions.map Action.actionId

namespace Workflow

theorem joined_nil : ∀ s ∈ ([] : List ActionSequence),
    s.actionPrev ∈ ([] : List Action).map Action.actionId ∧
      s.actionNext ∈ ([] : List Action).map Action.actionId :=
  fun _ none => absurd none List.not_mem_nil

/-- The constructor with `Init()`; the id comes from `GenerateUUID`. -/
def init (category name workflowId : String) : Workflow where
  category := category
  name := name
  upstreamSender := ""
  upstreamActionId := ""
  originator := "[system]"
  actions := []
  sequences := []
  workflowId := workflowId
  rollbackWorkflowId := ""
  engine := 0
  paused := false
  application := ""
  process := ""
  distinct := List.nodup_nil
  joined := joined_nil

def addAction (w : Workflow) (a : Action) : Workflow :=
  if present : a.actionId ∈ w.actions.map Action.actionId then w
  else
    { w with
      actions := w.actions ++ [a]
      distinct := by
        rw [List.map_append, List.nodup_append]
        refine ⟨w.distinct, List.nodup_singleton _, ?_⟩
        rintro id inside other last rfl
        obtain rfl := List.mem_singleton.mp last
        exact present inside
      joined := by
        intro s member
        have ends := w.joined s member
        simp only [List.map_append, List.mem_append]
        exact ⟨.inl ends.1, .inl ends.2⟩ }

theorem mem_addAction (w : Workflow) (a : Action) (id : String) :
    id ∈ (w.addAction a).actions.map Action.actionId ↔
      id ∈ w.actions.map Action.actionId ∨ id = a.actionId := by
  unfold addAction
  split
  · rename_i present
    constructor
    · exact .inl
    · rintro (inside | rfl)
      · exact inside
      · exact present
  · simp only [List.map_append, List.mem_append, List.map_cons, List.map_nil,
      List.mem_singleton]

@[simp] theorem addAction_sequences (w : Workflow) (a : Action) :
    (w.addAction a).sequences = w.sequences := by
  unfold addAction
  split <;> rfl

/-- The first stored sequence over the two actions, in either direction. -/
def between (w : Workflow) (prev next : Action) : Option ActionSequence :=
  w.sequences.find? fun s =>
    (s.actionPrev == prev.actionId && s.actionNext == next.actionId) ||
      (s.actionPrev == next.actionId && s.actionNext == prev.actionId)

def addSequence (w : Workflow) (prev next : Action) : Workflow :=
  let added := (w.addAction prev).addAction next
  match w.between prev next with
  | some s =>
      -- already there, or the reverse edge, which is refused
      if s.actionPrev == prev.actionId && s.actionNext == next.actionId then added else w
  | none =>
      { added with
        sequences := added.sequences ++ [⟨prev.actionId, next.actionId⟩]
        joined := by
          intro s member
          rcases List.mem_append.mp member with member | member
          · exact added.joined s member
          · obtain rfl := List.mem_singleton.mp member
            simp only [added, mem_addAction]
            exact ⟨.inl (.inr trivial), .inr trivial⟩ }

end Workflow

end Tecs
