import Tecs.Evb.VdpProgress

set_option autoImplicit false

/-! The pool of commands for the VSIs of a station. -/

namespace Tecs.Vdp.CmdPool

open Transition

section Definitions

/-- A port, and a VSI and its format. -/
abbrev ItemKey := UInt32 × VsiKey

def itemKey (item : TagVsiCmdPoolItem) : ItemKey := (item.port, item.key)

def vsiidFormatValuesValid (vsiidFormat : UInt8) : Bool := 1 ≤ vsiidFormat && vsiidFormat ≤ 5

/-- The memory of a new item, if there is any, comes with what it held where the flag is. A call
that is refused changes nothing. -/
def vsiCmdPoolAdd (key : ItemKey) (oper : UInt8) (memory : Option Bool)
    (lstVsiCmdPool : List TagVsiCmdPoolItem) : Option (List TagVsiCmdPoolItem) :=
  if vsiidFormatValuesValid key.2.1 then
    match VdpTlvType.ofValue oper.toUInt16 with
    | none => none
    | some oper =>
        match KeyedList.lookup itemKey key lstVsiCmdPool with
        | some pItem =>
            if oper = pItem.cmdTlvType then some lstVsiCmdPool
            else some (KeyedList.replace itemKey key
              (fun pItem => { pItem with cmdTlvType := oper, newFlag := true }) lstVsiCmdPool)
        | none =>
            memory.map fun newFlag => ⟨key.2.1, key.2.2, oper, key.1, newFlag⟩ :: lstVsiCmdPool
  else none

def vsiCmdPoolDel (key : ItemKey) (oper : UInt8) (lstVsiCmdPool : List TagVsiCmdPoolItem) :
    Option (List TagVsiCmdPoolItem) :=
  if vsiidFormatValuesValid key.2.1 then
    (VdpTlvType.ofValue oper.toUInt16).map fun oper =>
      lstVsiCmdPool.eraseP fun pItem => itemKey pItem = key && pItem.cmdTlvType = oper
  else none

def vsiCmdPoolDelNotlvtype (key : ItemKey) (lstVsiCmdPool : List TagVsiCmdPoolItem) :
    Option (List TagVsiCmdPoolItem) :=
  if vsiidFormatValuesValid key.2.1 then some (KeyedList.remove itemKey key lstVsiCmdPool)
  else none

/-- The calls of `vdp_vm_api` that the loop of `vdp_cmdPool_newvsi` makes. -/
def vdpVmApiCalls (port : UInt32) (attr : SPortAttr) :
    List TagVsiCmdPoolItem → List TagVsiInstanceS → List ItemKey
  | [], _ => []
  | item :: rest, lstVsi =>
      if item.port = port && !lstVsi.any (·.key = item.key) then
        itemKey item ::
          vdpVmApiCalls port attr rest (vdpSOper attr item.key item.cmdTlvType lstVsi)
      else vdpVmApiCalls port attr rest lstVsi

/-- The pool and the profiles of all ports, and the VSIs of each. The fields behind them record
what happened: the operation last requested for a VSI, and whether it was passed to the machine of
the VSI since. -/
structure Agent where
  lstVsiCmdPool : List TagVsiCmdPoolItem
  lstVsiProfile : List TagVsiProfile
  lstVsi : UInt32 → List TagVsiInstanceS
  requested : ItemKey → Option VdpTlvType
  passed : ItemKey → Bool

def Agent.start : Agent := ⟨[], [], fun _ => [], fun _ => none, fun _ => false⟩

def Agent.station (agent : Agent) (port : UInt32) : Station :=
  ⟨agent.lstVsi port, agent.lstVsiCmdPool, agent.lstVsiProfile⟩

/-- What else happens to the VSIs of a port leaves the commands of those that it keeps. -/
inductive PoolCall
  | add (key : ItemKey) (oper : UInt8) (memory : Option Bool)
  | del (key : ItemKey) (oper : UInt8)
  | delNotlvtype (key : ItemKey)
  | tick (port : UInt32) (attr : SPortAttr) (evbTlvStatusSucc : Bool)
  | others (port : UInt32) (lstVsi : List TagVsiInstanceS) (lstVsiProfile : List TagVsiProfile)

/-- A request for the operation that the item has already is no new one. -/
def Agent.request (agent : Agent) (key : ItemKey) (oper : UInt8)
    (lstVsiCmdPool : List TagVsiCmdPoolItem) : Agent :=
  let oper := VdpTlvType.ofValue oper.toUInt16
  { agent with
    lstVsiCmdPool
    requested := Function.update agent.requested key oper
    passed :=
      if (KeyedList.lookup itemKey key agent.lstVsiCmdPool).map (·.cmdTlvType) = oper then
        agent.passed
      else Function.update agent.passed key false }

def Agent.tick (agent : Agent) (port : UInt32) (attr : SPortAttr) (evbTlvStatusSucc : Bool)
    (station : Station) : Agent :=
  let calls := vdpVmApiCalls port attr ((agent.station port).keptPool port)
    ((agent.station port).survivors port)
  { agent with
    lstVsiCmdPool := station.lstVsiCmdPool
    lstVsiProfile := station.lstVsiProfile
    lstVsi := Function.update agent.lstVsi port station.lstVsi
    passed := fun key => agent.passed key || (evbTlvStatusSucc && calls.contains key) }

def Agent.call (agent : Agent) : PoolCall → Option Agent
  | .add key oper memory =>
      match vsiCmdPoolAdd key oper memory agent.lstVsiCmdPool with
      | none => some agent
      | some lstVsiCmdPool => some (agent.request key oper lstVsiCmdPool)
  | .del key oper =>
      match vsiCmdPoolDel key oper agent.lstVsiCmdPool with
      | none => some agent
      | some lstVsiCmdPool => some { agent with lstVsiCmdPool }
  | .delNotlvtype key =>
      match vsiCmdPoolDelNotlvtype key agent.lstVsiCmdPool with
      | none => some agent
      | some lstVsiCmdPool => some { agent with lstVsiCmdPool }
  | .tick port attr evbTlvStatusSucc =>
      (vdpSLoopTimerHandler port attr evbTlvStatusSucc (agent.station port)).map
        fun (station, _) => agent.tick port attr evbTlvStatusSucc station
  | .others port lstVsi lstVsiProfile =>
      if lstVsi.all fun vsi =>
          (agent.lstVsi port).any fun old => old.key = vsi.key && old.cfgState = vsi.cfgState then
        some { agent with lstVsi := Function.update agent.lstVsi port lstVsi, lstVsiProfile }
      else none

def PoolStep (agent : Agent) (label : PoolCall) (next : Agent) : Prop :=
  agent.call label = some next

/-- There is one item for a VSI of a port, and it has the operation that was last requested. -/
structure Agent.Orderly (agent : Agent) : Prop where
  oneEach : (agent.lstVsiCmdPool.map itemKey).Nodup
  asRequested : ∀ item ∈ agent.lstVsiCmdPool,
    agent.requested (itemKey item) = some item.cmdTlvType

/-- A tick removes no request for a de-association that was not passed on before. -/
def DeassocPassed (agent : Agent) (label : PoolCall) (next : Agent) : Prop :=
  match label with
  | .tick _ _ _ => ∀ item ∈ agent.lstVsiCmdPool, item.cmdTlvType = .deassociate →
      itemKey item ∉ next.lstVsiCmdPool.map itemKey → agent.passed (itemKey item) = true
  | _ => True

def LawfulStep (agent : Agent) (label : PoolCall) (next : Agent) : Prop :=
  PoolStep agent label next ∧ DeassocPassed agent label next

/-- A VSI that still has a de-association to do. -/
def Busy (vsi : TagVsiInstanceS) : Prop :=
  vsi.cfgState = .deassociate ∧ vsi.cancelCmd = false ∧ (vsi.state = .init → vsi.newCmd = true)

/-- An item whose de-association was not passed on yet has its flag set, or its VSI is at another
one. -/
def Flagged (agent : Agent) (label : PoolCall) : Prop :=
  match label with
  | .tick port _ true => ∀ item ∈ agent.lstVsiCmdPool, item.port = port →
      item.cmdTlvType = .deassociate → agent.passed (itemKey item) = false →
        item.newFlag = true ∨ ∃ vsi ∈ agent.lstVsi port, vsi.key = item.key ∧ Busy vsi
  | _ => True

end Definitions

section Requests

variable {key : ItemKey} {oper : UInt8} {memory : Option Bool}
  {lstVsiCmdPool after : List TagVsiCmdPoolItem}

/-- The pool after a request, with the item for it: it is one that was there, one that has changed,
or one in new memory. -/
structure Requested (key : ItemKey) (type : VdpTlvType) (memory : Option Bool)
    (lstVsiCmdPool after : List TagVsiCmdPoolItem) (item : TagVsiCmdPoolItem) : Prop where
  found : KeyedList.lookup itemKey key after = some item
  oper : item.cmdTlvType = type
  nodup : (lstVsiCmdPool.map itemKey).Nodup → (after.map itemKey).Nodup
  others : ∀ other, itemKey other ≠ key → (other ∈ after ↔ other ∈ lstVsiCmdPool)
  flag : KeyedList.lookup itemKey key lstVsiCmdPool = some item ∨
    (KeyedList.lookup itemKey key lstVsiCmdPool).map (·.cmdTlvType) ≠ some type ∧
      (item.newFlag = true ∨
        KeyedList.lookup itemKey key lstVsiCmdPool = none ∧ memory = some item.newFlag)

theorem add_requested (added : vsiCmdPoolAdd key oper memory lstVsiCmdPool = some after) :
    ∃ type item, VdpTlvType.ofValue oper.toUInt16 = some type ∧
      Requested key type memory lstVsiCmdPool after item := by
  obtain ⟨-, added⟩ := Option.ite_none_right_eq_some.mp added
  cases known : VdpTlvType.ofValue oper.toUInt16 with
  | none =>
      rw [known] at added
      cases added
  | some type =>
      rw [known] at added
      cases found : KeyedList.lookup itemKey key lstVsiCmdPool with
      | none =>
          rw [found] at added
          obtain ⟨newFlag, given, rfl⟩ := Option.map_eq_some_iff.mp added
          have absent := KeyedList.lookup_eq_none.mp found
          refine ⟨type, ⟨key.2.1, key.2.2, type, key.1, newFlag⟩, rfl, ?_, rfl, fun nodup => ?_,
            fun other apart => ?_, .inr ⟨?_, .inr ⟨found, given⟩⟩⟩
          · rw [KeyedList.lookup_cons]
            exact if_pos rfl
          · exact List.nodup_cons.mpr ⟨absent, nodup⟩
          · rw [List.mem_cons]
            exact or_iff_right fun same => apart (congrArg itemKey same)
          · rw [found]
            exact nofun
      | some item =>
          rw [found] at added
          dsimp only at added
          by_cases same : type = item.cmdTlvType
          · rw [if_pos same] at added
            obtain rfl := Option.some.inj added
            exact ⟨type, item, rfl, found, same.symm, id, fun _ _ => Iff.rfl, .inl found⟩
          · rw [if_neg same] at added
            obtain rfl := Option.some.inj added
            have kept (pItem : TagVsiCmdPoolItem) :
                itemKey { pItem with cmdTlvType := type, newFlag := true } = itemKey pItem := rfl
            refine ⟨type, { item with cmdTlvType := type, newFlag := true }, rfl, ?_, rfl,
              fun nodup => ?_, fun other apart => KeyedList.mem_replace_other kept apart,
              .inr ⟨?_, .inl rfl⟩⟩
            · rw [KeyedList.lookup_replace_self kept, found]
              rfl
            · rw [KeyedList.map_replace kept]
              exact nodup
            · rw [found]
              exact fun eq => same (Option.some.inj eq).symm

variable {agent : Agent}

theorem Agent.Orderly.request (orderly : agent.Orderly)
    (added : vsiCmdPoolAdd key oper memory agent.lstVsiCmdPool = some after) :
    (agent.request key oper after).Orderly := by
  obtain ⟨type, new, known, requested⟩ := add_requested added
  have nodup := requested.nodup orderly.oneEach
  refine ⟨nodup, fun item mem => ?_⟩
  change Function.update agent.requested key _ (itemKey item) = _
  by_cases own : itemKey item = key
  · have same : KeyedList.lookup itemKey key after = some item :=
      own ▸ KeyedList.lookup_of_mem nodup mem
    obtain rfl := Option.some.inj (requested.found.symm.trans same)
    rw [own, Function.update_self, known, requested.oper]
  · rw [Function.update_of_ne own]
    exact orderly.asRequested item ((requested.others item own).mp mem)

theorem Agent.Orderly.sublist (orderly : agent.Orderly)
    (sub : after.Sublist agent.lstVsiCmdPool) :
    Agent.Orderly { agent with lstVsiCmdPool := after } where
  oneEach := orderly.oneEach.sublist (sub.map itemKey)
  asRequested item mem := orderly.asRequested item (sub.subset mem)

end Requests

section Tick

variable {agent next : Agent} {port : UInt32} {attr : SPortAttr}

def cleared (port : UInt32) (item : TagVsiCmdPoolItem) : TagVsiCmdPoolItem :=
  if item.port = port then { item with newFlag := false } else item

theorem itemKey_cleared (item : TagVsiCmdPoolItem) :
    itemKey (cleared port item) = itemKey item := by
  rw [cleared]
  split <;> rfl

theorem oper_cleared (item : TagVsiCmdPoolItem) :
    (cleared port item).cmdTlvType = item.cmdTlvType := by
  rw [cleared]
  split <;> rfl

/-- What a tick leaves, while the negotiation of the port stands. -/
theorem tick_spec (taken : PoolStep agent (.tick port attr true) next) :
    ∃ done, ((agent.station port).visited port attr).mapM
        (tickVsiS ((agent.station port).keptProfiles port)) = some done ∧
      next = agent.tick port attr true ⟨done.map (·.1),
        ((agent.station port).keptPool port).map (cleared port),
        (agent.station port).keptProfiles port⟩ := by
  simp only [PoolStep, Agent.call, vdpSLoopTimerHandler, Bool.not_true, Bool.false_eq_true,
    if_false, Option.map_map] at taken
  obtain ⟨done, all, rfl⟩ := Option.map_eq_some_iff.mp taken
  exact ⟨done, all, rfl⟩

/-- Without it only the VSIs go. -/
theorem tick_down (taken : PoolStep agent (.tick port attr false) next) :
    next.lstVsiCmdPool = agent.lstVsiCmdPool ∧ next.requested = agent.requested ∧
      next.passed = agent.passed ∧
        next.lstVsi = Function.update agent.lstVsi port [] := by
  simp only [PoolStep, Agent.call, vdpSLoopTimerHandler, Bool.not_false, if_true,
    Option.map_some] at taken
  obtain rfl := Option.some.inj taken
  refine ⟨rfl, rfl, ?_, ?_⟩
  · funext key
    simp [Agent.tick]
  · simp [Agent.tick, vdpSCanDestoryVsi]

theorem keptPool_sublist : ((agent.station port).keptPool port).Sublist agent.lstVsiCmdPool :=
  List.filter_sublist

theorem keys_cleared (pool : List TagVsiCmdPoolItem) :
    (pool.map (cleared port)).map itemKey = pool.map itemKey := by
  rw [List.map_map]
  exact List.map_congr_left fun item _ => itemKey_cleared item

theorem Agent.Orderly.tick (orderly : agent.Orderly) {evbTlvStatusSucc : Bool}
    (taken : PoolStep agent (.tick port attr evbTlvStatusSucc) next) : next.Orderly := by
  cases evbTlvStatusSucc with
  | false =>
      obtain ⟨pool, requested, -, -⟩ := tick_down taken
      refine ⟨?_, ?_⟩
      · rw [pool]
        exact orderly.oneEach
      · rw [pool, requested]
        exact orderly.asRequested
  | true =>
      obtain ⟨done, -, rfl⟩ := tick_spec taken
      have sub : ((agent.station port).keptPool port).Sublist agent.lstVsiCmdPool :=
        keptPool_sublist
      have kept := orderly.sublist sub
      refine ⟨?_, fun item mem => ?_⟩
      · change (List.map itemKey (List.map (cleared port) _)).Nodup
        rw [keys_cleared]
        exact kept.oneEach
      · obtain ⟨old, there, rfl⟩ := List.mem_map.mp mem
        rw [itemKey_cleared, oper_cleared]
        exact kept.asRequested old there

theorem del_sublist {key : ItemKey} {oper : UInt8} (taken : PoolStep agent (.del key oper) next) :
    ∃ after : List TagVsiCmdPoolItem, after.Sublist agent.lstVsiCmdPool ∧
      next = { agent with lstVsiCmdPool := after } := by
  rw [PoolStep, Agent.call] at taken
  cases deleted : vsiCmdPoolDel key oper agent.lstVsiCmdPool with
  | none =>
      rw [deleted] at taken
      exact ⟨_, List.Sublist.refl _, (Option.some.inj taken).symm⟩
  | some pool =>
      rw [deleted] at taken
      obtain ⟨-, deleted⟩ := Option.ite_none_right_eq_some.mp deleted
      obtain ⟨type, -, rfl⟩ := Option.map_eq_some_iff.mp deleted
      exact ⟨_, List.eraseP_sublist, (Option.some.inj taken).symm⟩

theorem delNotlvtype_sublist {key : ItemKey} (taken : PoolStep agent (.delNotlvtype key) next) :
    ∃ after : List TagVsiCmdPoolItem, after.Sublist agent.lstVsiCmdPool ∧
      next = { agent with lstVsiCmdPool := after } := by
  rw [PoolStep, Agent.call] at taken
  cases deleted : vsiCmdPoolDelNotlvtype key agent.lstVsiCmdPool with
  | none =>
      rw [deleted] at taken
      exact ⟨_, List.Sublist.refl _, (Option.some.inj taken).symm⟩
  | some pool =>
      rw [deleted] at taken
      obtain ⟨-, deleted⟩ := Option.ite_none_right_eq_some.mp deleted
      obtain rfl := Option.some.inj deleted
      exact ⟨_, List.eraseP_sublist, (Option.some.inj taken).symm⟩

theorem step_orderly {label : PoolCall} (orderly : agent.Orderly)
    (taken : PoolStep agent label next) : next.Orderly := by
  cases label with
  | add key oper memory =>
      rw [PoolStep, Agent.call] at taken
      cases added : vsiCmdPoolAdd key oper memory agent.lstVsiCmdPool with
      | none =>
          rw [added] at taken
          obtain rfl := Option.some.inj taken
          exact orderly
      | some pool =>
          rw [added] at taken
          obtain rfl := Option.some.inj taken
          exact orderly.request added
  | del key oper =>
      obtain ⟨pool, sub, rfl⟩ := del_sublist taken
      exact orderly.sublist sub
  | delNotlvtype key =>
      obtain ⟨pool, sub, rfl⟩ := delNotlvtype_sublist taken
      exact orderly.sublist sub
  | tick port attr evbTlvStatusSucc => exact orderly.tick taken
  | others port lstVsi lstVsiProfile =>
      obtain ⟨-, taken⟩ := Option.ite_none_right_eq_some.mp taken
      obtain rfl := Option.some.inj taken
      exact ⟨orderly.oneEach, orderly.asRequested⟩

/-- A VSI stays through a tick beside a request for a de-association exactly if it is busy with
one. -/
theorem stays_iff (orderly : agent.Orderly) {item : TagVsiCmdPoolItem}
    (mem : item ∈ agent.lstVsiCmdPool) (here : item.port = port)
    (deassoc : item.cmdTlvType = .deassociate) {vsi : TagVsiInstanceS} (same : vsi.key = item.key) :
    vsi ∈ (agent.station port).survivors port ↔ vsi ∈ agent.lstVsi port ∧ Busy vsi := by
  have cancelled : (agent.station port).Cancelled port vsi ↔
      vsi.cancelCmd = true ∨ vsi.cfgState ≠ .deassociate := by
    refine or_congr_right ⟨?_, fun differs => ⟨item, mem, here, same.symm, ?_⟩⟩
    · rintro ⟨other, mem', here', same', differs⟩
      have keys : itemKey other = itemKey item := by
        rw [itemKey, itemKey, here, here', same', same]
      obtain rfl := List.inj_on_of_nodup_map orderly.oneEach mem' mem keys
      rw [deassoc] at differs
      exact differs.symm
    · rw [deassoc]
      exact differs.symm
  rw [mem_survivors_iff, cancelled, not_or, not_not, Bool.not_eq_true]
  exact and_congr_right fun _ => ⟨fun ⟨⟨free, cfg⟩, init⟩ => ⟨cfg, free, init⟩,
    fun ⟨cfg, free, init⟩ => ⟨⟨free, cfg⟩, init⟩⟩

/-- What a tick removes. -/
theorem removed_iff (orderly : agent.Orderly) (taken : PoolStep agent (.tick port attr true) next)
    {item : TagVsiCmdPoolItem} (mem : item ∈ agent.lstVsiCmdPool) :
    itemKey item ∉ next.lstVsiCmdPool.map itemKey ↔
      item.port = port ∧ item.cmdTlvType = .deassociate ∧ item.newFlag = false ∧
        ¬∃ vsi ∈ agent.lstVsi port, vsi.key = item.key ∧ Busy vsi := by
  obtain ⟨done, -, rfl⟩ := tick_spec taken
  have kept : itemKey item ∈ ((agent.station port).keptPool port).map itemKey ↔
      item ∈ (agent.station port).keptPool port := by
    refine ⟨fun there => ?_, List.mem_map_of_mem⟩
    obtain ⟨other, mem', same⟩ := List.mem_map.mp there
    obtain rfl := List.inj_on_of_nodup_map orderly.oneEach (keptPool_sublist.subset mem') mem same
    exact mem'
  change itemKey item ∉ List.map itemKey (List.map (cleared port) _) ↔ _
  rw [keys_cleared, kept, Station.keptPool, vdpCanDestroyCmdPool, List.mem_filter]
  simp only [Bool.or_eq_true, decide_eq_true_eq, not_and, not_or, not_not, Bool.not_eq_true,
    ne_eq, List.any_eq_false, not_exists]
  constructor
  · intro goes
    obtain ⟨⟨⟨here, deassoc⟩, flag⟩, gone⟩ := goes mem
    refine ⟨here, deassoc, flag, fun vsi there same busy => ?_⟩
    exact gone vsi ((stays_iff orderly mem here deassoc same).mpr ⟨there, busy⟩) same
  · rintro ⟨here, deassoc, flag, gone⟩ _
    refine ⟨⟨⟨here, deassoc⟩, flag⟩, fun vsi there same => ?_⟩
    obtain ⟨old, busy⟩ := (stays_iff orderly mem here deassoc same).mp there
    exact gone vsi old same busy

/-- A tick is right about the de-associations exactly if they are flagged. -/
theorem deassocPassed_iff {label : PoolCall} (orderly : agent.Orderly)
    (taken : PoolStep agent label next) : DeassocPassed agent label next ↔ Flagged agent label := by
  cases label with
  | add key oper memory => exact Iff.rfl
  | del key oper => exact Iff.rfl
  | delNotlvtype key => exact Iff.rfl
  | others port lstVsi lstVsiProfile => exact Iff.rfl
  | tick port attr evbTlvStatusSucc =>
      cases evbTlvStatusSucc with
      | false =>
          obtain ⟨pool, -, -, -⟩ := tick_down taken
          refine iff_of_true (fun item mem _ gone => absurd ?_ gone) trivial
          rw [pool]
          exact List.mem_map_of_mem mem
      | true =>
          constructor
          · intro passed item mem here deassoc waits
            by_contra missed
            rw [not_or, Bool.not_eq_true] at missed
            have gone := (removed_iff orderly taken mem).mpr ⟨here, deassoc, missed.1, missed.2⟩
            rw [passed item mem deassoc gone] at waits
            cases waits
          · intro flagged item mem deassoc gone
            obtain ⟨here, -, flag, idle⟩ := (removed_iff orderly taken mem).mp gone
            by_contra waits
            rcases flagged item mem here deassoc (by simpa using waits) with set | busy
            · rw [flag] at set
              cases set
            · exact idle busy

end Tick

section Runs

theorem Agent.start_orderly : Agent.start.Orderly where
  oneEach := List.nodup_nil
  asRequested _ mem := absurd mem List.not_mem_nil

/-- The pool is orderly in every run, and a run removes no request for a de-association that was
not passed on exactly if every tick finds those flagged. -/
theorem cmdPool_right_iff (labels : List PoolCall) (agent : Agent) :
    (Run PoolStep Agent.start labels agent ↔
        Run (Reaching Agent.Orderly PoolStep) Agent.start labels agent) ∧
      (Run LawfulStep Agent.start labels agent ↔
        Run (Guarded Flagged PoolStep) Agent.start labels agent) := by
  have start := Agent.start_orderly
  refine ⟨⟨fun run => ?_, fun run => ?_⟩, ⟨fun run => ?_, fun run => ?_⟩⟩
  · refine run.convert start fun before label after orderly taken => ?_
    have next := step_orderly orderly taken
    exact ⟨⟨taken, next⟩, next⟩
  · exact run.mono fun before label after taken => taken.1
  · refine run.convert start fun before label after orderly taken => ?_
    have flagged := (deassocPassed_iff orderly taken.1).mp taken.2
    exact ⟨⟨flagged, taken.1⟩, step_orderly orderly taken.1⟩
  · refine run.convert start fun before label after orderly taken => ?_
    have passed := (deassocPassed_iff orderly taken.2).mpr taken.1
    exact ⟨⟨taken.2, passed⟩, step_orderly orderly taken.2⟩

/-- What a request for a de-association has to find: memory whose flag is set by chance if there is
no item yet, and no VSI that was given a de-association before. -/
def Marked (agent : Agent) (label : PoolCall) : Prop :=
  match label with
  | .add key oper memory => VdpTlvType.ofValue oper.toUInt16 = some .deassociate →
      (KeyedList.lookup itemKey key agent.lstVsiCmdPool).map (·.cmdTlvType) ≠ some .deassociate →
        (KeyedList.lookup itemKey key agent.lstVsiCmdPool = none → memory ≠ some false) ∧
          ∀ vsi ∈ agent.lstVsi key.1, vsi.key = key.2 → vsi.cfgState ≠ .deassociate
  | _ => True

/-- A request that waits for the next tick. -/
structure Agent.Waiting (agent : Agent) : Prop where
  orderly : agent.Orderly
  flagged : ∀ item ∈ agent.lstVsiCmdPool, item.cmdTlvType = .deassociate →
    agent.passed (itemKey item) = false → item.newFlag = true ∧
      ∀ vsi ∈ agent.lstVsi item.port, vsi.key = item.key → vsi.cfgState ≠ .deassociate

theorem oper_keys {key : VsiKey} {oper : VdpTlvType} {attr : SPortAttr}
    {lstVsi : List TagVsiInstanceS} {vsi : TagVsiInstanceS}
    (mem : vsi ∈ vdpSOper attr key oper lstVsi) :
    vsi.key = key ∨ ∃ old ∈ lstVsi, old.key = vsi.key := by
  rw [vdpSOper] at mem
  split at mem
  · rcases KeyedList.mem_replace mem with old | ⟨old, found, rfl⟩
    · exact .inr ⟨vsi, old, rfl⟩
    · have same : old.key = key := KeyedList.key_of_lookup found
      exact .inl same
  · rw [Ecp.listInsert_eq, List.mem_cons] at mem
    rcases mem with rfl | old
    · exact .inl rfl
    · exact .inr ⟨vsi, old, rfl⟩

/-- The loop passes the command of every item whose VSI is not there. -/
theorem mem_calls {port : UInt32} {attr : SPortAttr} {pool : List TagVsiCmdPoolItem}
    {item : TagVsiCmdPoolItem} (nodup : (pool.map itemKey).Nodup) (mem : item ∈ pool)
    (here : item.port = port) {lstVsi : List TagVsiInstanceS}
    (absent : ∀ vsi ∈ lstVsi, vsi.key ≠ item.key) :
    itemKey item ∈ vdpVmApiCalls port attr pool lstVsi := by
  induction pool generalizing lstVsi with
  | nil => cases mem
  | cons first rest ih =>
      have ⟨apart, nodup'⟩ := List.nodup_cons.mp nodup
      rw [vdpVmApiCalls]
      rcases List.mem_cons.mp mem with rfl | later
      · have test : (item.port = port && !lstVsi.any (·.key = item.key)) = true := by
          simpa [here] using absent
        rw [if_pos test]
        exact List.mem_cons_self
      · have differs : itemKey first ≠ itemKey item := fun same =>
          apart (same ▸ List.mem_map_of_mem later)
        split
        · next added =>
          have same : first.port = port := by
            rw [Bool.and_eq_true, decide_eq_true_eq] at added
            exact added.1
          refine List.mem_cons_of_mem _ (ih nodup' later fun vsi mem => ?_)
          rcases oper_keys mem with new | ⟨old, there, eq⟩
          · intro eq
            exact differs (by rw [itemKey, itemKey, same, here, ← new, eq])
          · exact eq ▸ absent old there
        · exact ih nodup' later absent

theorem Agent.Waiting.request {agent : Agent} {key : ItemKey} {oper : UInt8} {memory : Option Bool}
    {after : List TagVsiCmdPoolItem} (waiting : agent.Waiting)
    (marked : Marked agent (.add key oper memory))
    (added : vsiCmdPoolAdd key oper memory agent.lstVsiCmdPool = some after) :
    (agent.request key oper after).Waiting := by
  have orderly := waiting.orderly.request added
  refine ⟨orderly, fun item mem deassoc waits => ?_⟩
  obtain ⟨type, new, known, requested⟩ := add_requested added
  change (if _ then agent.passed else Function.update agent.passed key false) (itemKey item) =
    false at waits
  by_cases own : itemKey item = key
  · have same : KeyedList.lookup itemKey key after = some item :=
      own ▸ KeyedList.lookup_of_mem orderly.oneEach mem
    obtain rfl := Option.some.inj (requested.found.symm.trans same)
    rcases requested.flag with old | ⟨differs, flag⟩
    · rw [old, Option.map_some, requested.oper, known, if_pos rfl] at waits
      exact waiting.flagged new (KeyedList.mem_of_lookup old) deassoc waits
    · rw [← requested.oper, deassoc] at known differs
      have ⟨memory_, vsis⟩ := marked known differs
      refine ⟨?_, fun vsi there eq => ?_⟩
      · rcases flag with set | ⟨fresh, given⟩
        · exact set
        · have nonzero := memory_ fresh
          rw [given] at nonzero
          simpa using nonzero
      · subst own
        exact vsis vsi there eq
  · have there := (requested.others item own).mp mem
    refine waiting.flagged item there deassoc ?_
    split at waits
    · exact waits
    · rwa [Function.update_of_ne own] at waits

theorem Agent.Waiting.sublist {agent : Agent} {after : List TagVsiCmdPoolItem}
    (waiting : agent.Waiting) (sub : after.Sublist agent.lstVsiCmdPool) :
    Agent.Waiting { agent with lstVsiCmdPool := after } where
  orderly := waiting.orderly.sublist sub
  flagged item mem := waiting.flagged item (sub.subset mem)

theorem Agent.Waiting.tick {agent next : Agent} {port : UInt32} {attr : SPortAttr}
    {evbTlvStatusSucc : Bool} (waiting : agent.Waiting)
    (taken : PoolStep agent (.tick port attr evbTlvStatusSucc) next) : next.Waiting := by
  have orderly := waiting.orderly
  refine ⟨orderly.tick taken, fun item mem deassoc waits => ?_⟩
  cases evbTlvStatusSucc with
  | false =>
      obtain ⟨pool, -, passed, lstVsi⟩ := tick_down taken
      rw [pool] at mem
      rw [passed] at waits
      have ⟨flag, vsis⟩ := waiting.flagged item mem deassoc waits
      refine ⟨flag, fun vsi there => ?_⟩
      rw [lstVsi] at there
      by_cases own : item.port = port
      · rw [own, Function.update_self] at there
        cases there
      · rw [Function.update_of_ne own] at there
        exact vsis vsi there
  | true =>
      obtain ⟨done, -, rfl⟩ := tick_spec taken
      obtain ⟨old, kept, rfl⟩ := List.mem_map.mp mem
      rw [oper_cleared] at deassoc
      rw [itemKey_cleared] at waits
      have ⟨before, calls⟩ := Bool.or_eq_false_iff.mp waits
      have there := keptPool_sublist.subset kept
      have ⟨flag, vsis⟩ := waiting.flagged old there deassoc before
      by_cases own : old.port = port
      · -- the loop has just passed it on
        have passed : itemKey old ∈ vdpVmApiCalls port attr ((agent.station port).keptPool port)
            ((agent.station port).survivors port) := by
          refine mem_calls (orderly.oneEach.sublist (keptPool_sublist.map itemKey)) kept own ?_
          intro vsi stays same
          have ⟨present, busy⟩ := (stays_iff orderly there own deassoc same).mp stays
          exact vsis vsi (own ▸ present) same busy.1
        rw [Bool.true_and, ← Bool.not_eq_true, List.contains_iff_mem] at calls
        exact absurd passed calls
      · have same : cleared port old = old := if_neg own
        rw [same]
        refine ⟨flag, fun vsi present => vsis vsi ?_⟩
        change vsi ∈ Function.update agent.lstVsi port _ old.port at present
        rwa [Function.update_of_ne own] at present

/-- Where every request finds what it has to, every tick finds it flagged. -/
theorem flagged_of_marked {labels : List PoolCall} {agent : Agent}
    (run : Run (Guarded Marked PoolStep) Agent.start labels agent) :
    Run (Guarded Flagged PoolStep) Agent.start labels agent := by
  have start : Agent.start.Waiting :=
    ⟨Agent.start_orderly, fun item mem => absurd mem List.not_mem_nil⟩
  refine run.convert start fun before label after waiting taken => ?_
  obtain ⟨marked, taken⟩ := taken
  cases label with
  | add key oper memory =>
      refine ⟨⟨trivial, taken⟩, ?_⟩
      rw [PoolStep, Agent.call] at taken
      cases added : vsiCmdPoolAdd key oper memory before.lstVsiCmdPool with
      | none =>
          rw [added] at taken
          obtain rfl := Option.some.inj taken
          exact waiting
      | some pool =>
          rw [added] at taken
          obtain rfl := Option.some.inj taken
          exact waiting.request marked added
  | del key oper =>
      refine ⟨⟨trivial, taken⟩, ?_⟩
      obtain ⟨pool, sub, rfl⟩ := del_sublist taken
      exact waiting.sublist sub
  | delNotlvtype key =>
      refine ⟨⟨trivial, taken⟩, ?_⟩
      obtain ⟨pool, sub, rfl⟩ := delNotlvtype_sublist taken
      exact waiting.sublist sub
  | tick port attr evbTlvStatusSucc =>
      refine ⟨⟨?_, taken⟩, waiting.tick taken⟩
      cases evbTlvStatusSucc with
      | false => trivial
      | true =>
          intro item mem _ deassoc waits
          exact .inl (waiting.flagged item mem deassoc waits).1
  | others port lstVsi lstVsiProfile =>
      refine ⟨⟨trivial, taken⟩, step_orderly waiting.orderly taken,
        fun item mem deassoc waits => ?_⟩
      obtain ⟨same, taken⟩ := Option.ite_none_right_eq_some.mp taken
      obtain rfl := Option.some.inj taken
      have ⟨flag, vsis⟩ := waiting.flagged item mem deassoc waits
      refine ⟨flag, fun vsi there => ?_⟩
      change vsi ∈ Function.update before.lstVsi port lstVsi item.port at there
      by_cases own : item.port = port
      · rw [own, Function.update_self] at there
        have found := List.all_eq_true.mp same vsi there
        obtain ⟨old, present, eq⟩ := List.any_eq_true.mp found
        rw [Bool.and_eq_true, decide_eq_true_eq, decide_eq_true_eq] at eq
        rw [← eq.1, ← eq.2]
        exact vsis old (own ▸ present)
      · rw [Function.update_of_ne own] at there
        exact vsis vsi there

end Runs

section Examples

def Agent.advance (agent : Agent) (label : PoolCall) : Agent := (agent.call label).getD agent

theorem step_advance {agent : Agent} {label : PoolCall}
    (called : (agent.call label).isSome = true) : PoolStep agent label (agent.advance label) := by
  obtain ⟨next, eq⟩ := Option.isSome_iff_exists.mp called
  rw [PoolStep, Agent.advance, eq, Option.getD_some]

def exampleKey : ItemKey := (7, examplePro.vsiIDFormat, examplePro.vsiID)

/-- A request for a de-association, in memory that was zero, is gone with the next tick. -/
theorem deassoc_lost :
    ¬ ∀ labels agent, Run PoolStep Agent.start labels agent → ∀ label next,
      PoolStep agent label next → DeassocPassed agent label next := by
  intro all
  let agent := Agent.start.advance (.add exampleKey 4 (some false))
  have run : Run PoolStep Agent.start [.add exampleKey 4 (some false)] agent :=
    Run.single (step_advance (by decide))
  have taken : PoolStep agent (.tick 7 exampleAttr true)
      (agent.advance (.tick 7 exampleAttr true)) := step_advance (by decide)
  have passed := all _ agent run _ _ taken
    ⟨exampleKey.2.1, exampleKey.2.2, .deassociate, 7, false⟩ (by decide) rfl
    (by decide)
  revert passed
  decide

end Examples

end Tecs.Vdp.CmdPool
