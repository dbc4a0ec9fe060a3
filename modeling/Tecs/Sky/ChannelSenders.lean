import Tecs.Library.Run
import Tecs.Sky.Errcode

set_option autoImplicit false

/-! The senders that a connection keeps for the message units. -/

namespace Tecs

section Definitions

/-- An entry of `_mc_senders`: the unit that registered it, the group it sends to and the name of
the sender; the table has only the text made of the two. -/
structure McSender where
  unit : String
  group : String
  name : String
deriving Repr, DecidableEq

def McSender.idx (sender : McSender) : String := sender.unit ++ "." ++ sender.group

/-- `find` of a text in another, compared with `npos`. -/
def Occurs (part text : String) : Prop := part.toList <:+: text.toList

instance (part text : String) : Decidable (Occurs part text) :=
  inferInstanceAs (Decidable (_ <:+: _))

/-- The sessions and senders of a `ChannelAgentQpid`; the multicast senders stand in the order of
their texts, which are different. -/
structure SenderTable where
  sessions : Std.TreeSet String
  senders : Std.TreeMap String String
  mcSenders : List McSender
  distinct : (mcSenders.map McSender.idx).Nodup

variable (table : SenderTable)

def SenderTable.empty : SenderTable := ⟨∅, ∅, [], List.nodup_nil⟩

/-- `answer` is the session and the sender that the broker gives, or an exception from either. -/
def SenderTable.createSender (name : String) (connection session : Bool) (answer : Option String) :
    Status × SenderTable :=
  if connection = false then (.errorNotReady, table)
  else if name = "" then (.errorInvalidArgument, table)
  else if session = false then (.error, table)
  else
    let opened := { table with sessions := table.sessions.insert name }
    match answer with
    | none => (.error, opened)
    | some sender => (.success, { opened with senders := opened.senders.insertIfNew name sender })

def SenderTable.find (idx : String) : Option McSender :=
  table.mcSenders.find? (·.idx = idx)

theorem SenderTable.distinct_insert {sender : McSender} (absent : table.find sender.idx = none) :
    ((table.mcSenders.orderedInsert (fun a b => a.idx ≤ b.idx) sender).map McSender.idx).Nodup := by
  have fresh : sender.idx ∉ table.mcSenders.map McSender.idx := by
    rw [SenderTable.find, List.find?_eq_none] at absent
    intro there
    obtain ⟨other, mem, same⟩ := List.mem_map.mp there
    exact absent other mem (decide_eq_true same)
  have perm := (List.perm_orderedInsert (fun a b => a.idx ≤ b.idx) sender table.mcSenders).map
    McSender.idx
  rw [perm.nodup_iff, List.map_cons, List.nodup_cons]
  exact ⟨fresh, table.distinct⟩

/-- The table after `SendMcMessage`; `answer` is the sender that the broker gives. -/
def SenderTable.sendMcMessage (unit group : String) (answer : Option String) :
    Status × SenderTable :=
  if unit ∉ table.sessions then (.errorObjectNotExist, table)
  else
    match absent : table.find (unit ++ "." ++ group) with
    | some _ => (.success, table)
    | none =>
        match answer with
        | none => (.error, table)
        | some name =>
            (.success,
              { table with
                mcSenders :=
                  table.mcSenders.orderedInsert (fun a b => a.idx ≤ b.idx) ⟨unit, group, name⟩
                distinct := table.distinct_insert absent })

/-- The loop that erases from the table it goes through. -/
def eraseMcSenders (part : String) : List McSender → List McSender
  | [] => []
  | sender :: rest =>
      if Occurs part sender.idx then eraseMcSenders part rest
      else sender :: eraseMcSenders part rest

theorem eraseMcSenders_eq (part : String) (senders : List McSender) :
    eraseMcSenders part senders = senders.filter fun sender => ¬ Occurs part sender.idx := by
  induction senders with
  | nil => rfl
  | cons sender rest ih =>
      rw [eraseMcSenders, List.filter_cons, ih]
      by_cases occurs : Occurs part sender.idx <;> simp [occurs]

def SenderTable.deleteSender (name : String) : SenderTable where
  sessions := table.sessions.erase name
  senders := table.senders.erase name
  mcSenders := eraseMcSenders (name ++ ".") table.mcSenders
  distinct := by
    rw [eraseMcSenders_eq]
    exact table.distinct.sublist (List.filter_sublist.map _)

inductive SenderCall
  | createSender (name : String) (connection session : Bool) (answer : Option String)
  | sendMcMessage (unit group : String) (answer : Option String)
  | deleteSender (name : String)

def SenderTable.call : SenderCall → SenderTable
  | .createSender name connection session answer =>
      (table.createSender name connection session answer).2
  | .sendMcMessage unit group answer => (table.sendMcMessage unit group answer).2
  | .deleteSender name => table.deleteSender name

/-- The senders that a unit registered go, and every other stays. -/
structure SenderTable.DeletesOwn (name : String) : Prop where
  sessions : ∀ unit, unit ∈ (table.deleteSender name).sessions ↔
    unit ∈ table.sessions ∧ unit ≠ name
  senders : ∀ unit, (table.deleteSender name).senders[unit]? =
    if unit = name then none else table.senders[unit]?
  mcSenders : ∀ sender, sender ∈ (table.deleteSender name).mcSenders ↔
    sender ∈ table.mcSenders ∧ sender.unit ≠ name

end Definitions

section Deletion

variable {table : SenderTable} {name : String}

theorem mem_deleteSender {sender : McSender} :
    sender ∈ (table.deleteSender name).mcSenders ↔
      sender ∈ table.mcSenders ∧ ¬ Occurs (name ++ ".") sender.idx := by
  change sender ∈ eraseMcSenders (name ++ ".") table.mcSenders ↔ _
  rw [eraseMcSenders_eq, List.mem_filter, decide_eq_true_eq]

/-- The text of a unit's own sender starts with its name and the dot. -/
theorem occurs_own {sender : McSender} (own : sender.unit = name) :
    Occurs (name ++ ".") sender.idx := by
  have text := @String.toList_append (name ++ ".") sender.group
  rw [Occurs, McSender.idx, own, text]
  exact List.infix_append_left

/-- The text before the only dot. -/
theorem before_dot {front back unit group : List Char} (plainUnit : '.' ∉ unit)
    (plainGroup : '.' ∉ group) (same : front ++ '.' :: back = unit ++ '.' :: group) :
    front = unit := by
  rcases List.append_eq_append_iff.mp same with ⟨rest, longer, eq⟩ | ⟨rest, longer, eq⟩
  · cases rest with
    | nil => rw [longer, List.append_nil]
    | cons c rest =>
        obtain ⟨rfl, -⟩ := List.cons.inj eq
        exact absurd (longer ▸ List.mem_append_right front List.mem_cons_self) plainUnit
  · cases rest with
    | nil => rw [longer, List.append_nil]
    | cons c rest =>
        obtain ⟨-, eq⟩ := List.cons.inj eq
        exact absurd (eq ▸ List.mem_append_right rest List.mem_cons_self) plainGroup

/-- Among names without dots only a unit whose name ends in the other's can be hit. -/
theorem occurs_iff_suffix {sender : McSender} (plainUnit : '.' ∉ sender.unit.toList)
    (plainGroup : '.' ∉ sender.group.toList) :
    Occurs (name ++ ".") sender.idx ↔ name.toList <:+ sender.unit.toList := by
  have dot : ".".toList = ['.'] := rfl
  rw [Occurs, McSender.idx]
  simp only [String.toList_append, dot, List.append_assoc, List.singleton_append]
  constructor
  · rintro ⟨front, back, eq⟩
    have same : (front ++ name.toList) ++ '.' :: back =
        sender.unit.toList ++ '.' :: sender.group.toList := by
      simpa only [List.append_assoc, List.cons_append, List.nil_append] using eq
    exact ⟨front, before_dot plainUnit plainGroup same⟩
  · rintro ⟨front, eq⟩
    refine ⟨front, sender.group.toList, ?_⟩
    rw [← eq]
    simp only [List.append_assoc, List.cons_append, List.nil_append]

theorem session_deleteSender (unit : String) :
    unit ∈ (table.deleteSender name).sessions ↔ unit ∈ table.sessions ∧ unit ≠ name := by
  change unit ∈ table.sessions.erase name ↔ _
  rw [Std.TreeSet.mem_erase]
  constructor
  · rintro ⟨apart, mem⟩
    exact ⟨mem, fun same => apart (by rw [same]; exact Std.ReflCmp.compare_self)⟩
  · rintro ⟨mem, apart⟩
    exact ⟨fun same => apart (Std.LawfulEqCmp.eq_of_compare same).symm, mem⟩

theorem sender_deleteSender (unit : String) :
    (table.deleteSender name).senders[unit]? =
      if unit = name then none else table.senders[unit]? := by
  change (table.senders.erase name)[unit]? = _
  rw [Std.TreeMap.getElem?_erase]
  by_cases same : unit = name
  · rw [if_pos same, same, if_pos Std.ReflCmp.compare_self]
  · rw [if_neg same, if_neg fun equal => same (Std.LawfulEqCmp.eq_of_compare equal).symm]

/-- Deleting the senders of a unit deletes its own and no other just where its name and a dot occur
in the text of no other unit's multicast sender. -/
theorem deleteSender_own_iff (table : SenderTable) (name : String) :
    table.DeletesOwn name ↔
      ∀ sender ∈ table.mcSenders, sender.unit ≠ name → ¬ Occurs (name ++ ".") sender.idx := by
  constructor
  · intro own sender mem other
    exact (mem_deleteSender.mp ((own.mcSenders sender).mpr ⟨mem, other⟩)).2
  · intro apart
    refine ⟨session_deleteSender, sender_deleteSender, fun sender => ?_⟩
    rw [mem_deleteSender]
    constructor
    · rintro ⟨mem, absent⟩
      exact ⟨mem, fun own => absent (occurs_own own)⟩
    · rintro ⟨mem, other⟩
      exact ⟨mem, apart sender mem other⟩

/-- With names without dots the deletion is exact where no other unit with a multicast sender has a
name that ends in the one deleted. -/
theorem deleteSender_own_of_plain
    (plain : ∀ sender ∈ table.mcSenders, '.' ∉ sender.unit.toList ∧ '.' ∉ sender.group.toList) :
    table.DeletesOwn name ↔
      ∀ sender ∈ table.mcSenders, sender.unit ≠ name → ¬ name.toList <:+ sender.unit.toList := by
  rw [deleteSender_own_iff]
  constructor
  · intro apart sender mem other
    rw [← occurs_iff_suffix (plain sender mem).1 (plain sender mem).2]
    exact apart sender mem other
  · intro apart sender mem other
    rw [occurs_iff_suffix (plain sender mem).1 (plain sender mem).2]
    exact apart sender mem other

/-- `image_agent` is deleted beside `project_image_agent`. -/
def agentsTable : SenderTable where
  sessions := .ofList ["image_agent", "project_image_agent"]
  senders := .ofList [("image_agent", "sender0"), ("project_image_agent", "sender1")]
  mcSenders := [⟨"project_image_agent", "hosts", "sender2"⟩]
  distinct := List.nodup_singleton _

theorem deleteSender_takes_other : ¬ agentsTable.DeletesOwn "image_agent" := by
  intro own
  have occurs : Occurs ("image_agent" ++ ".")
      (McSender.idx ⟨"project_image_agent", "hosts", "sender2"⟩) :=
    ⟨"project_".toList, "hosts".toList, by decide⟩
  have kept := (own.mcSenders ⟨"project_image_agent", "hosts", "sender2"⟩).mpr
    ⟨List.mem_singleton.mpr rfl, by decide⟩
  exact (mem_deleteSender.mp kept).2 occurs

end Deletion

section Runs

open Transition

variable {table : SenderTable}

def SenderStep (before : SenderTable) (call : SenderCall) (after : SenderTable) : Prop :=
  after = before.call call

/-- Every multicast sender belongs to a unit with a session. -/
def SenderTable.Owned (table : SenderTable) : Prop :=
  ∀ sender ∈ table.mcSenders, sender.unit ∈ table.sessions

theorem owned_createSender (owned : table.Owned) (name : String) (connection session : Bool)
    (answer : Option String) :
    (table.createSender name connection session answer).2.Owned := by
  have opened : ∀ sender ∈ table.mcSenders, sender.unit ∈ table.sessions.insert name :=
    fun sender mem => Std.TreeSet.mem_insert.mpr (.inr (owned sender mem))
  rw [SenderTable.createSender]
  split
  · exact owned
  split
  · exact owned
  split
  · exact owned
  cases answer with
  | none => exact opened
  | some sender => exact opened

theorem owned_sendMcMessage (owned : table.Owned) (unit group : String) (answer : Option String) :
    (table.sendMcMessage unit group answer).2.Owned := by
  rw [SenderTable.sendMcMessage]
  split
  · exact owned
  · next session =>
    split
    · exact owned
    · cases answer with
      | none => exact owned
      | some name =>
          intro sender mem
          rcases (List.mem_orderedInsert _).mp mem with rfl | mem
          · exact not_not.mp session
          · exact owned sender mem

theorem owned_deleteSender (owned : table.Owned) (name : String) :
    (table.deleteSender name).Owned := by
  intro sender mem
  obtain ⟨mem, absent⟩ := mem_deleteSender.mp mem
  exact (session_deleteSender sender.unit).mpr
    ⟨owned sender mem, fun own => absent (occurs_own own)⟩

/-- No multicast sender outlives the session of its unit. -/
theorem owned_run {calls : List SenderCall} (run : Run SenderStep .empty calls table) :
    table.Owned := by
  refine run.invariant (fun _ mem => absurd mem List.not_mem_nil) ?_
  rintro before call after owned rfl
  cases call with
  | createSender name connection session answer =>
      exact owned_createSender owned name connection session answer
  | sendMcMessage unit group answer => exact owned_sendMcMessage owned unit group answer
  | deleteSender name => exact owned_deleteSender owned name

end Runs

end Tecs
