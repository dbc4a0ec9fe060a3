import Tecs.Sky.Errcode
import Tecs.Sky.MultiRelations

set_option autoImplicit false

namespace Tecs

/-! The agent that registers message units with the brokers and keeps the multicast groups. -/

section Definitions

/-- The connection to a broker: whether it has its connection object, the senders of the units,
and the receivers of the groups. -/
structure ChannelAgent where
  broker : String
  connection : Bool
  senders : Std.TreeMap String String
  mcReceivers : Std.TreeMap String String

/-- What the broker makes of a request for a sender or a receiver: its name, or an exception. -/
abbrev BrokerAnswers := String → Option String

def ChannelAgent.createSender (agent : ChannelAgent) (name : String) (answer : Option String) :
    Status × ChannelAgent :=
  if agent.connection = false then (.errorNotReady, agent)
  else if name = "" then (.errorInvalidArgument, agent)
  else
    match answer with
    | none => (.error, agent)
    | some sender => (.success, { agent with senders := agent.senders.insertIfNew name sender })

def ChannelAgent.deleteSender (agent : ChannelAgent) (name : String) : ChannelAgent :=
  { agent with senders := agent.senders.erase name }

def ChannelAgent.createMcReceiver (agent : ChannelAgent) (group : String)
    (answer : Option String) : Status × ChannelAgent :=
  if agent.mcReceivers[group]?.isSome then (.success, agent)
  else
    match answer with
    | none => (.error, agent)
    | some receiver =>
        (.success, { agent with mcReceivers := agent.mcReceivers.insertIfNew group receiver })

def ChannelAgent.deleteMcReceiver (agent : ChannelAgent) (group : String) : ChannelAgent :=
  { agent with mcReceivers := agent.mcReceivers.erase group }

/-- A call on one connection after the other, up to the first that fails. -/
def onChannels (call : ChannelAgent → Status × ChannelAgent) :
    List ChannelAgent → Status × List ChannelAgent
  | [] => (.success, [])
  | agent :: rest =>
      if (call agent).1 ≠ .success then ((call agent).1, (call agent).2 :: rest)
      else ((onChannels call rest).1, (call agent).2 :: (onChannels call rest).2)

/-- The name that the agent keeps for itself. -/
def messageAgentName : String := "*"

variable {Mu : Type}

/-- The message agent; its connections are in the order of their brokers. -/
structure MessageAgent (Mu : Type) where
  connectAgents : List ChannelAgent
  units : Std.TreeMap String Mu
  mcRelations : MultiRelations

namespace MessageAgent

def empty : MessageAgent Mu := ⟨[], ∅, .empty⟩

variable (agent : MessageAgent Mu)

/-- `opened` tells whether the connection was opened; it is kept even when it was not. -/
def connect (broker : String) (opened : Bool) : Status × MessageAgent Mu :=
  if agent.connectAgents.any (·.broker = broker) then (.errorDuplicatedOp, agent)
  else
    (if opened then .success else .error,
      { agent with
        connectAgents := agent.connectAgents.orderedInsert (fun a b => a.broker ≤ b.broker)
          ⟨broker, true, ∅, ∅⟩ })

def registerUnit (newunit : String) (pmu : Mu)
    (answers : BrokerAnswers) : Status × MessageAgent Mu :=
  if agent.connectAgents.isEmpty then (.errorNotReady, agent)
  else if newunit = "" then (.errorInvalidArgument, agent)
  else if newunit = messageAgentName then (.errorBadAddress, agent)
  else if agent.units[newunit]?.isSome then (.errorDuplicatedOp, agent)
  else
    let created := onChannels (fun channel => channel.createSender newunit (answers channel.broker))
      agent.connectAgents
    (created.1,
      { agent with units := agent.units.insert newunit pmu, connectAgents := created.2 })

def deregisterUnit (name : String) : Status × MessageAgent Mu :=
  if agent.units.isEmpty then (.success, agent)
  else
    (.success,
      { connectAgents := agent.connectAgents.map (·.deleteSender name)
        units := agent.units.erase name
        mcRelations := agent.mcRelations.deleteMember name })

def joinMcGroup (group unit : String) (answers : BrokerAnswers) : Status × MessageAgent Mu :=
  if agent.units[unit]?.isNone then (.errorObjectNotExist, agent)
  else
    let joined := agent.mcRelations.addMemberToGroup unit group
    if agent.connectAgents.isEmpty then
      (.errorNotReady, { agent with mcRelations := joined.delMemberFromGroup unit group })
    else
      let created := onChannels
        (fun channel => channel.createMcReceiver group (answers channel.broker))
        agent.connectAgents
      (created.1,
        { agent with
          connectAgents := created.2
          mcRelations :=
            if created.1 ≠ .success then joined.delMemberFromGroup unit group else joined })

def exitMcGroup (group unit : String) : Status × MessageAgent Mu :=
  if agent.units[unit]?.isNone then (.errorInvalidArgument, agent)
  else if agent.mcRelations.hasGroup group = false then (.errorObjectNotExist, agent)
  else (.success, { agent with mcRelations := agent.mcRelations.delMemberFromGroup unit group })

/-- A message for a group: the connection that brought it gives up its receiver when the group
has no member. -/
def receiveMc (broker group : String) : Status × MessageAgent Mu :=
  match agent.mcRelations.getMemberList group with
  | some _ => (.success, agent)
  | none =>
      (.errMcreceiverNotExist,
        { agent with
          connectAgents := agent.connectAgents.map fun channel =>
            if channel.broker = broker then channel.deleteMcReceiver group else channel })

inductive Call (Mu : Type)
  | connect (broker : String) (opened : Bool)
  | registerUnit (newunit : String) (pmu : Mu) (answers : BrokerAnswers)
  | deregisterUnit (name : String)
  | joinMcGroup (group unit : String) (answers : BrokerAnswers)
  | exitMcGroup (group unit : String)
  | receiveMc (broker group : String)

def call : Call Mu → Status × MessageAgent Mu
  | .connect broker opened => agent.connect broker opened
  | .registerUnit newunit pmu answers => agent.registerUnit newunit pmu answers
  | .deregisterUnit name => agent.deregisterUnit name
  | .joinMcGroup group unit answers => agent.joinMcGroup group unit answers
  | .exitMcGroup group unit => agent.exitMcGroup group unit
  | .receiveMc broker group => agent.receiveMc broker group

/-- The agent after a number of calls. -/
def after (requests : List (Call Mu)) : MessageAgent Mu :=
  requests.foldl (fun agent request => (agent.call request).2) empty

/-- The same units, senders and groups. -/
structure SameTables (before after : MessageAgent Mu) : Prop where
  units : ∀ name : String, after.units[name]? = before.units[name]?
  senders : List.Forall₂
    (fun channel later : ChannelAgent => later.broker = channel.broker ∧
      ∀ name : String, later.senders[name]? = channel.senders[name]?)
    before.connectAgents after.connectAgents
  members : ∀ name : String,
    after.mcRelations.getGroupList name = before.mcRelations.getGroupList name
  groups : ∀ name : String,
    after.mcRelations.getMemberList name = before.mcRelations.getMemberList name

/-- Some connection refuses. -/
def Refused (create : ChannelAgent → Status × ChannelAgent) : Prop :=
  ∃ channel ∈ agent.connectAgents, (create channel).1 ≠ .success

/-- The two calls that are to leave everything as it was when they fail. -/
inductive Undoing (Mu : Type)
  | registerUnit (newunit : String) (pmu : Mu) (answers : BrokerAnswers)
  | joinMcGroup (group unit : String) (answers : BrokerAnswers)

def Undoing.toCall : Undoing Mu → Call Mu
  | .registerUnit newunit pmu answers => .registerUnit newunit pmu answers
  | .joinMcGroup group unit answers => .joinMcGroup group unit answers

/-- The unit is new and of a permitted name. -/
def Registrable (newunit : String) : Prop :=
  newunit ≠ "" ∧ newunit ≠ messageAgentName ∧ agent.units[newunit]? = none

def IsMember (group unit : String) : Prop :=
  ∃ members, agent.mcRelations.getMemberList group = some members ∧ unit ∈ members

/-- A connection refuses the sender of a new unit; a connection refuses the receiver of a group
whose member joins again, or there is no connection. -/
def Spoilt : Undoing Mu → Prop
  | .registerUnit newunit _ answers => agent.Registrable newunit ∧
      agent.Refused fun channel => channel.createSender newunit (answers channel.broker)
  | .joinMcGroup group unit answers => agent.units[unit]? ≠ none ∧ agent.IsMember group unit ∧
      (agent.connectAgents = [] ∨
        agent.Refused fun channel => channel.createMcReceiver group (answers channel.broker))

end MessageAgent

end Definitions

section Channels

variable {create : ChannelAgent → Status × ChannelAgent} {channels : List ChannelAgent}

theorem onChannels_cons (agent : ChannelAgent) (rest : List ChannelAgent) :
    onChannels create (agent :: rest) =
      if (create agent).1 ≠ .success then ((create agent).1, (create agent).2 :: rest)
      else ((onChannels create rest).1, (create agent).2 :: (onChannels create rest).2) := rfl

/-- The calls fail exactly if one of the connections refuses. -/
theorem onChannels_fails :
    (onChannels create channels).1 ≠ .success ↔
      ∃ channel ∈ channels, (create channel).1 ≠ .success := by
  induction channels with
  | nil => simp [onChannels]
  | cons agent rest ih =>
      rw [onChannels_cons]
      by_cases failed : (create agent).1 ≠ .success
      · rw [if_pos failed]
        exact ⟨fun _ => ⟨agent, List.mem_cons_self, failed⟩, fun _ => failed⟩
      · rw [if_neg failed]
        constructor
        · intro later
          have ⟨channel, member, refused⟩ := ih.mp later
          exact ⟨channel, List.mem_cons_of_mem _ member, refused⟩
        · intro ⟨channel, member, refused⟩
          rcases List.mem_cons.mp member with rfl | inside
          · exact absurd refused failed
          · exact ih.mpr ⟨channel, inside, refused⟩

theorem onChannels_related {related : ChannelAgent → ChannelAgent → Prop}
    (called : ∀ channel, related channel (create channel).2)
    (refl : ∀ channel, related channel channel) :
    List.Forall₂ related channels (onChannels create channels).2 := by
  induction channels with
  | nil => exact .nil
  | cons agent rest ih =>
      rw [onChannels_cons]
      split
      · exact .cons (called agent) (List.forall₂_same.mpr fun channel _ => refl channel)
      · exact .cons (called agent) ih

/-- A receiver is no sender. -/
theorem createMcReceiver_senders (channel : ChannelAgent) (group : String)
    (answer : Option String) :
    (channel.createMcReceiver group answer).2.broker = channel.broker ∧
      (channel.createMcReceiver group answer).2.senders = channel.senders := by
  unfold ChannelAgent.createMcReceiver
  split
  · exact ⟨rfl, rfl⟩
  · cases answer <;> exact ⟨rfl, rfl⟩

end Channels

namespace MessageAgent

variable {Mu : Type} {agent : MessageAgent Mu}

section Invariant

/-- The two maps of the groups agree. -/
def Related (agent : MessageAgent Mu) : Prop :=
  ∃ related, agent.mcRelations.Represents related

theorem call_related (holds : agent.Related) (request : Call Mu) :
    (agent.call request).2.Related := by
  have ⟨related, represents⟩ := holds
  cases request with
  | connect broker opened =>
      show (agent.connect broker opened).2.Related
      rw [connect]
      split <;> exact holds
  | registerUnit newunit pmu answers =>
      show (agent.registerUnit newunit pmu answers).2.Related
      rw [registerUnit]
      split
      · exact holds
      · split
        · exact holds
        · split
          · exact holds
          · split <;> exact holds
  | deregisterUnit name =>
      show (agent.deregisterUnit name).2.Related
      rw [deregisterUnit]
      split
      · exact holds
      · exact ⟨_, represents.deleteMember name⟩
  | joinMcGroup group unit answers =>
      show (agent.joinMcGroup group unit answers).2.Related
      have joined := represents.add unit group
      rw [joinMcGroup]
      split
      · exact holds
      · dsimp only
        split
        · exact ⟨_, joined.del unit group⟩
        · show ∃ related, MultiRelations.Represents (ite _ _ _) related
          split
          · exact ⟨_, joined.del unit group⟩
          · exact ⟨_, joined⟩
  | exitMcGroup group unit =>
      show (agent.exitMcGroup group unit).2.Related
      rw [exitMcGroup]
      split
      · exact holds
      · split
        · exact holds
        · exact ⟨_, represents.del unit group⟩
  | receiveMc broker group =>
      show (agent.receiveMc broker group).2.Related
      rw [receiveMc]
      split <;> exact holds

theorem after_related (requests : List (Call Mu)) : (after requests).Related := by
  have initial : (empty : MessageAgent Mu).Related := ⟨_, MultiRelations.empty_represents⟩
  exact List.foldlRecOn requests _ initial fun agent holds request _ => call_related holds request

end Invariant

section Undo

theorem sameTables_refl (agent : MessageAgent Mu) : SameTables agent agent :=
  ⟨fun _ => rfl, List.forall₂_same.mpr fun _ _ => ⟨rfl, fun _ => rfl⟩, fun _ => rfl, fun _ => rfl⟩

/-- The relation as it was before a member joined that was none. -/
theorem del_add_new {r : MultiRelations} {related : String → String → Prop}
    (represents : r.Represents related) {group unit : String}
    (stranger : unit ∉ ListIndex.listed r.groups group) :
    (∀ name, ((r.addMemberToGroup unit group).delMemberFromGroup unit group).getGroupList name =
      r.getGroupList name) ∧
    ∀ name, ((r.addMemberToGroup unit group).delMemberFromGroup unit group).getMemberList name =
      r.getMemberList name := by
  have other : group ∉ ListIndex.listed r.members unit := by
    rw [represents.members, ← represents.groups]
    exact stranger
  constructor
  · intro name
    exact ListIndex.getElem?_remove_add represents.tidyMembers other
  · intro name
    exact ListIndex.getElem?_remove_add represents.tidyGroups stranger

/-- A member that joins and is taken out again is a member no more. -/
theorem del_add_member {r : MultiRelations} {related : String → String → Prop}
    (represents : r.Represents related) (group unit : String) :
    unit ∉ ListIndex.listed
      ((r.addMemberToGroup unit group).delMemberFromGroup unit group).groups group := by
  rw [((represents.add unit group).del unit group).groups]
  exact fun both => both.2 ⟨rfl, rfl⟩

theorem isMember_iff (group unit : String) :
    agent.IsMember group unit ↔ unit ∈ ListIndex.listed agent.mcRelations.groups group := by
  rw [IsMember, MultiRelations.getMemberList, ListIndex.listed]
  cases agent.mcRelations.groups[group]? <;> simp

theorem refused_nonempty {create : ChannelAgent → Status × ChannelAgent}
    (refused : agent.Refused create) : agent.connectAgents.isEmpty = false := by
  have ⟨channel, member, _⟩ := refused
  cases stored : agent.connectAgents with
  | nil =>
      rw [stored] at member
      exact absurd member List.not_mem_nil
  | cons => rfl

theorem registerUnit_spoilt {newunit : String} (pmu : Mu) {answers : BrokerAnswers}
    (registrable : agent.Registrable newunit)
    (refused : agent.Refused fun channel =>
      channel.createSender newunit (answers channel.broker)) :
    (agent.registerUnit newunit pmu answers).1 ≠ .success ∧
      (agent.registerUnit newunit pmu answers).2.units[newunit]? = some pmu := by
  have ⟨named, permitted, fresh⟩ := registrable
  have known : ¬ agent.units[newunit]?.isSome = true := by simp [fresh]
  rw [registerUnit, refused_nonempty refused, if_neg Bool.false_ne_true, if_neg named,
    if_neg permitted, if_neg known]
  exact ⟨onChannels_fails.mpr refused, by simp⟩

/-- A registration that nothing refuses succeeds, and one that is rejected changes nothing. -/
theorem registerUnit_sound {newunit : String} {pmu : Mu} {answers : BrokerAnswers}
    (failed : (agent.registerUnit newunit pmu answers).1 ≠ .success)
    (accepted : ¬ agent.Spoilt (.registerUnit newunit pmu answers)) :
    (agent.registerUnit newunit pmu answers).2 = agent := by
  rw [registerUnit] at failed ⊢
  split
  case isTrue => rfl
  case isFalse connected =>
    split
    case isTrue => rfl
    case isFalse named =>
      split
      case isTrue => rfl
      case isFalse permitted =>
        split
        case isTrue => rfl
        case isFalse fresh =>
          rw [if_neg connected, if_neg named, if_neg permitted, if_neg fresh] at failed
          exact absurd ⟨⟨named, permitted, by simpa using fresh⟩, onChannels_fails.mp failed⟩
            accepted

theorem joinMcGroup_spoilt {group unit : String} {answers : BrokerAnswers}
    (related : agent.Related) (registered : agent.units[unit]? ≠ none)
    (refused : agent.connectAgents = [] ∨ agent.Refused fun channel =>
      channel.createMcReceiver group (answers channel.broker)) :
    (agent.joinMcGroup group unit answers).1 ≠ .success ∧
      ¬ (agent.joinMcGroup group unit answers).2.IsMember group unit := by
  have ⟨_, represents⟩ := related
  have known : ¬ agent.units[unit]?.isNone = true := by simpa using registered
  rw [joinMcGroup, if_neg known, isMember_iff]
  rcases refused with alone | refused
  · simp only [alone, List.isEmpty_nil, if_true]
    exact ⟨by decide, del_add_member represents group unit⟩
  · have failed := onChannels_fails.mpr refused
    simp only [refused_nonempty refused, Bool.false_eq_true, if_false, if_pos failed]
    exact ⟨failed, del_add_member represents group unit⟩

theorem joinMcGroup_fails {group unit : String} {answers : BrokerAnswers}
    (registered : agent.units[unit]? ≠ none)
    (failed : (agent.joinMcGroup group unit answers).1 ≠ .success) :
    agent.connectAgents = [] ∨ agent.Refused fun channel =>
      channel.createMcReceiver group (answers channel.broker) := by
  have known : ¬ agent.units[unit]?.isNone = true := by simpa using registered
  rw [joinMcGroup, if_neg known] at failed
  dsimp only at failed
  by_cases alone : agent.connectAgents.isEmpty = true
  · exact .inl (List.isEmpty_iff.mp alone)
  · rw [if_neg alone] at failed
    exact .inr (onChannels_fails.mp failed)

/-- A unit that was no member is none after a join that fails. -/
theorem joinMcGroup_sound {group unit : String} {answers : BrokerAnswers}
    (related : agent.Related) (stranger : ¬ agent.IsMember group unit)
    (failed : (agent.joinMcGroup group unit answers).1 ≠ .success) :
    SameTables agent (agent.joinMcGroup group unit answers).2 := by
  have ⟨_, represents⟩ := related
  rw [isMember_iff] at stranger
  have ⟨members, groups⟩ := del_add_new represents stranger
  rw [joinMcGroup] at failed ⊢
  split
  case isTrue => exact sameTables_refl agent
  case isFalse registered =>
    rw [if_neg registered] at failed
    dsimp only at failed ⊢
    split
    case isTrue =>
      exact ⟨fun _ => rfl, (sameTables_refl agent).senders, members, groups⟩
    case isFalse connected =>
      rw [if_neg connected] at failed
      rw [if_pos failed]
      refine ⟨fun _ => rfl, ?_, members, groups⟩
      apply onChannels_related
      · intro channel
        have ⟨broker, senders⟩ :=
          createMcReceiver_senders channel group (answers channel.broker)
        exact ⟨broker, fun name => by rw [senders]⟩
      · exact fun channel => ⟨rfl, fun _ => rfl⟩

/-- A call that fails leaves the tables as they were, unless a connection refused a new unit or
the unit was a member before it joined. -/
theorem failed_unchanged_iff (requests : List (Call Mu)) (attempt : Undoing Mu) :
    (((after requests).call attempt.toCall).1 ≠ .success →
      SameTables (after requests) ((after requests).call attempt.toCall).2) ↔
      ¬ (after requests).Spoilt attempt := by
  have related := after_related requests
  constructor
  · intro kept spoilt
    cases attempt with
    | registerUnit newunit pmu answers =>
        have ⟨registrable, refused⟩ := spoilt
        have ⟨failed, stored⟩ := registerUnit_spoilt pmu registrable refused
        have same : ((after requests).registerUnit newunit pmu answers).2.units[newunit]? =
            (after requests).units[newunit]? := (kept failed).units newunit
        rw [registrable.2.2, stored] at same
        cases same
    | joinMcGroup group unit answers =>
        have ⟨registered, ⟨members, listed, member⟩, refused⟩ := spoilt
        have ⟨failed, gone⟩ := joinMcGroup_spoilt related registered refused
        have groups := (kept failed).groups group
        exact gone ⟨members, groups.trans listed, member⟩
  · intro sound failed
    cases attempt with
    | registerUnit newunit pmu answers =>
        have same := registerUnit_sound failed sound
        show SameTables _ ((after requests).registerUnit newunit pmu answers).2
        rw [same]
        exact sameTables_refl _
    | joinMcGroup group unit answers =>
        by_cases member : (after requests).IsMember group unit
        · by_cases registered : (after requests).units[unit]? = none
          · have same : ((after requests).joinMcGroup group unit answers).2 = after requests := by
              rw [joinMcGroup, registered, Option.isNone_none, if_pos rfl]
            show SameTables _ ((after requests).joinMcGroup group unit answers).2
            rw [same]
            exact sameTables_refl _
          · exact absurd ⟨registered, member, joinMcGroup_fails registered failed⟩ sound
        · exact joinMcGroup_sound related member failed

/-- A unit joins its group again when a second broker was connected, which refuses it. -/
def joinsAgain : List (Call ℕ) :=
  [.connect "broker1" true, .registerUnit "unit" 0 (fun _ => some "sender"),
    .joinMcGroup "group" "unit" (fun _ => some "receiver"), .connect "broker2" true]

theorem member_dropped :
    ¬ ∀ (requests : List (Call ℕ)) (attempt : Undoing ℕ),
      ((after requests).call attempt.toCall).1 ≠ .success →
        SameTables (after requests) ((after requests).call attempt.toCall).2 := by
  intro kept
  have failed : ((after joinsAgain).joinMcGroup "group" "unit" fun _ => none).1 ≠ .success := by
    decide
  have same : ((after joinsAgain).joinMcGroup "group" "unit"
      fun _ => none).2.mcRelations.getMemberList "group" =
        (after joinsAgain).mcRelations.getMemberList "group" :=
    (kept joinsAgain (.joinMcGroup "group" "unit" fun _ => none) failed).groups "group"
  have before : (after joinsAgain).mcRelations.getMemberList "group" = some ["unit"] := by decide
  have later : ((after joinsAgain).joinMcGroup "group" "unit"
      fun _ => none).2.mcRelations.getMemberList "group" = none := by decide
  rw [before, later] at same
  cases same

end Undo

end MessageAgent

end Tecs
