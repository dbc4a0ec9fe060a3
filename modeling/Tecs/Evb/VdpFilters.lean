import Tecs.Evb.VdpBridge
import Tecs.Library.Run

set_option autoImplicit false

/-! The filters that a bridge has installed are those of its associated VSIs. -/

namespace Tecs.Vdp

open Transition

/-- The VSIs of each port, and the filters of all ports. -/
structure Bridge where
  vdp : UInt32 → List TagVsiInstanceB
  lstVsiBOutFlt : List TagVsiBOutFilter

def Bridge.start : Bridge := ⟨fun _ => [], []⟩

inductive BridgeCall
  | receive (port toutKeepAlive : UInt32) (buf : List UInt8)
  | tick (port : UInt32) (evbTlvStatusSucc : Bool)
      (accepts : UInt8 × Vector UInt8 16 → TagVdpFltGroupMacVid → Bool)

def Bridge.call (bigendian : Bool) (bridge : Bridge) : BridgeCall → Option Bridge
  | .receive port toutKeepAlive buf =>
      some { bridge with
        vdp := Function.update bridge.vdp port
          (vdpBReceive bigendian toutKeepAlive buf (bridge.vdp port)) }
  | .tick port evbTlvStatusSucc accepts =>
      (vdpBLoopTimerHandler ⟨bigendian, port, accepts⟩ evbTlvStatusSucc (bridge.vdp port)
        bridge.lstVsiBOutFlt).map fun (lstVsi, lstVsiBOutFlt, _) =>
          ⟨Function.update bridge.vdp port lstVsi, lstVsiBOutFlt⟩

def BridgeStep (bigendian : Bool) (bridge : Bridge) (label : BridgeCall) (next : Bridge) : Prop :=
  bridge.call bigendian label = some next

/-- The entries of a filter are those of a command, as the bridge reads them. -/
def TagVsiBOutFilter.Holds (bigendian : Bool) (flt : TagVsiBOutFilter)
    (vdpass : TagVdpTlvVDPAss) : Prop :=
  ∃ tmpGMV, vsiBOutFltGetVdpassLstFlt bigendian vdpass = some (0, tmpGMV) ∧
    ∀ k, k ∈ flt.lstFlt.map (·.key) ↔ k ∈ tmpGMV.map (·.key)

/-- `operCmd` is the command that was accepted last. -/
structure Bridge.Consistent (bigendian : Bool) (bridge : Bridge) : Prop where
  alone : ∀ port, ((bridge.vdp port).map (·.key)).Nodup
  single : (bridge.lstVsiBOutFlt.map (·.key)).Nodup
  installed : ∀ port key, (∃ flt ∈ bridge.lstVsiBOutFlt, flt.key = (port, key)) ↔
    ∃ vsi ∈ bridge.vdp port, vsi.key = key ∧ vsi.vsiState = some .associate
  entries : ∀ port, ∀ vsi ∈ bridge.vdp port, ∀ flt ∈ bridge.lstVsiBOutFlt,
    flt.key = (port, vsi.key) → ∃ vdpass, vsi.operCmd = some vdpass ∧
      vsi.operCmdTlvType = some .associate ∧ flt.Holds bigendian vdpass

/-- No pre-association is handled for an associated VSI. -/
def NoReturn (vsi : TagVsiInstanceB) : Prop :=
  vsi.vsiState = some .associate → VDP_LOOP_TIMER_INTREVAL < vsi.waitWhile →
    vsi.rxCmd.map (·.1) ≠ some .preAssociate ∧ vsi.rxCmd.map (·.1) ≠ some .preAssociateWithRR

instance (vsi : TagVsiInstanceB) : Decidable (NoReturn vsi) :=
  inferInstanceAs (Decidable (_ → _ → _))

def Bridge.Clean (bridge : Bridge) : BridgeCall → Prop
  | .receive _ _ _ => True
  | .tick port evbTlvStatusSucc _ =>
      evbTlvStatusSucc = true → ∀ vsi ∈ bridge.vdp port, NoReturn vsi

section Filters

variable {accepts : TagVdpFltGroupMacVid → Bool} {lstFlt lstFlt' tmpGMV : List TagVdpFltGroupMacVid}

theorem any_key {gmv : TagVdpFltGroupMacVid} :
    lstFlt.any (·.key = gmv.key) = true ↔ gmv.key ∈ lstFlt.map (·.key) := by
  simp [List.mem_map]

theorem keys_addLstFlt
    (done : vsiBOutFltAddLstFlt accepts lstFlt tmpGMV = (true, lstFlt')) (k) :
    k ∈ lstFlt'.map (·.key) ↔ k ∈ lstFlt.map (·.key) ∨ k ∈ tmpGMV.map (·.key) := by
  induction tmpGMV generalizing lstFlt with
  | nil =>
      have same : lstFlt = lstFlt' := by simpa [vsiBOutFltAddLstFlt] using done
      simp [same]
  | cons gmv rest ih =>
      rw [vsiBOutFltAddLstFlt] at done
      by_cases known : lstFlt.any (·.key = gmv.key) = true
      · have there := any_key.mp known
        simp only [vsiBOutFltAddfltGMV, if_pos known] at done
        rw [ih done, List.map_cons, List.mem_cons]
        constructor
        · rintro (old | new)
          · exact .inl old
          · exact .inr (.inr new)
        · rintro (old | rfl | new)
          · exact .inl old
          · exact .inl there
          · exact .inr new
      · simp only [vsiBOutFltAddfltGMV, if_neg known, Ecp.listInsert_eq] at done
        cases accepted : accepts gmv with
        | false => simp [accepted] at done
        | true =>
            simp only [accepted] at done
            rw [ih done, List.map_cons, List.map_cons, List.mem_cons, List.mem_cons, or_assoc,
              or_left_comm]

theorem keys_cmpdelLstFlt (k) :
    k ∈ (vsiBOutFltCmpdelLstFlt lstFlt tmpGMV).map (·.key) ↔
      k ∈ lstFlt.map (·.key) ∧ k ∈ tmpGMV.map (·.key) := by
  simp only [vsiBOutFltCmpdelLstFlt, List.mem_map, List.mem_filter, any_key]
  constructor
  · rintro ⟨gmv, ⟨mem, asked⟩, rfl⟩
    exact ⟨⟨gmv, mem, rfl⟩, asked⟩
  · rintro ⟨⟨gmv, mem, rfl⟩, asked⟩
    exact ⟨gmv, ⟨mem, asked⟩, rfl⟩

variable {bigendian : Bool} {port : UInt32} {mgrid : Vector UInt8 16} {vdpass : TagVdpTlvVDPAss}
  {flts flts' : List TagVsiBOutFilter} {done : Bool}

/-- A filter stands under a key, where nothing else changed. -/
structure Placed (k : FilterKey) (flt : TagVsiBOutFilter) (flts flts' : List TagVsiBOutFilter) :
    Prop where
  single : (flts'.map (·.key)).Nodup
  others : ∀ other, other ≠ k → KeyedList.lookup TagVsiBOutFilter.key other flts' =
    KeyedList.lookup TagVsiBOutFilter.key other flts
  self : KeyedList.lookup TagVsiBOutFilter.key k flts' = some flt

theorem placed_front {k : FilterKey} (single : (flts.map (·.key)).Nodup) {flt : TagVsiBOutFilter}
    (own : flt.key = k) (absent : KeyedList.lookup TagVsiBOutFilter.key k flts = none) :
    Placed k flt flts (Ecp.listInsert flts flt) := by
  subst own
  rw [Ecp.listInsert_eq]
  refine ⟨?_, ?_, ?_⟩
  · rw [List.map_cons, List.nodup_cons]
    exact ⟨KeyedList.lookup_eq_none.mp absent, single⟩
  · intro k apart
    rw [KeyedList.lookup_cons, if_neg apart.symm]
  · rw [KeyedList.lookup_cons, if_pos rfl]

theorem placed_over {k : FilterKey} (single : (flts.map (·.key)).Nodup) {old : TagVsiBOutFilter}
    {f : TagVsiBOutFilter → TagVsiBOutFilter} (kept : ∀ flt, (f flt).key = flt.key)
    (present : KeyedList.lookup TagVsiBOutFilter.key k flts = some old) :
    Placed k (f old) flts (KeyedList.replace TagVsiBOutFilter.key k f flts) where
  single := by
    rw [KeyedList.map_replace kept]
    exact single
  others other apart := KeyedList.lookup_replace_other kept apart
  self := by rw [KeyedList.lookup_replace_self kept, present, Option.map_some]

/-- An addition concerns the filter of its VSI only, and leaves the entries of the command there
if all went well. -/
theorem addvsiID_spec (single : (flts.map (·.key)).Nodup)
    (added : vsiBOutFltAddvsiID accepts bigendian port mgrid vdpass flts = some (done, flts')) :
    ∃ flt, Placed (port, vdpass.vsiIDFormat, vdpass.vsiID) flt flts flts' ∧
      (done = true → flt.Holds bigendian vdpass) := by
  rw [vsiBOutFltAddvsiID] at added
  cases decoded : vsiBOutFltGetVdpassLstFlt bigendian vdpass with
  | none => simp [decoded] at added
  | some result =>
      obtain ⟨rc, tmpGMV⟩ := result
      cases present : KeyedList.lookup TagVsiBOutFilter.key
          (port, vdpass.vsiIDFormat, vdpass.vsiID) flts with
      | none =>
          simp only [decoded, present] at added
          by_cases failed : rc ≠ 0
          · rw [if_pos failed, Option.some.injEq, Prod.mk.injEq] at added
            obtain ⟨rfl, rfl⟩ := added
            exact ⟨_, placed_front single rfl present, fun done => absurd done Bool.false_ne_true⟩
          · rw [if_neg failed, Option.some.injEq, Prod.mk.injEq] at added
            obtain ⟨rfl, rfl⟩ := added
            refine ⟨_, placed_front single rfl present, fun done => ⟨tmpGMV, ?_, ?_⟩⟩
            · rw [decoded, not_not.mp failed]
            · intro k
              have keys := keys_addLstFlt (Prod.ext done rfl) k
              simpa using keys
      | some old =>
          simp only [decoded, present] at added
          by_cases failed : rc ≠ 0
          · rw [if_pos failed, Option.some.injEq, Prod.mk.injEq] at added
            obtain ⟨rfl, rfl⟩ := added
            exact ⟨_, placed_over single (fun _ => rfl) present, fun done =>
              absurd done Bool.false_ne_true⟩
          · rw [if_neg failed, Option.some.injEq, Prod.mk.injEq] at added
            obtain ⟨rfl, rfl⟩ := added
            refine ⟨_, placed_over single (fun _ => rfl) present, fun done => ⟨tmpGMV, ?_, ?_⟩⟩
            · rw [decoded, not_not.mp failed]
            · intro k
              have keys := keys_addLstFlt (Prod.ext done rfl) k
              rw [keys_cmpdelLstFlt] at keys
              rw [keys]
              constructor
              · rintro (⟨_, asked⟩ | asked)
                · exact asked
                · exact asked
              · exact .inr

end Filters

section Machine

variable {host : Host} {vsi : TagVsiInstanceB} {flts : List TagVsiBOutFilter} {sent : List SentTlv}
  {work : Work}

/-- A VSI between two ticks, with the filter that is found for it. -/
structure VsiOk (bigendian : Bool) (vsi : TagVsiInstanceB) (found : Option TagVsiBOutFilter) :
    Prop where
  resting : vsi.state = .idle ∨ vsi.state = .init ∨ vsi.state = .waitStationCmd
  waiting : vsi.vsiState = some .associate → vsi.state = .waitStationCmd
  current : vsi.state = .waitStationCmd → vsi.vsiState = vsi.operCmdTlvType
  associated : vsi.vsiState = some .associate → ∃ flt vdpass, found = some flt ∧
    vsi.operCmd = some vdpass ∧ flt.Holds bigendian vdpass
  other : vsi.vsiState ≠ some .associate → found = none
  own : ∀ command ∈ vsi.rxCmd, (command.2.vsiIDFormat, command.2.vsiID) = vsi.key

/-- What a tick makes of a VSI: it is released together with its filter, or it rests again. -/
structure Handled (host : Host) (vsi : TagVsiInstanceB) (flts : List TagVsiBOutFilter)
    (work : Work) : Prop where
  key : work.vsi.key = vsi.key
  single : (work.lstVsiBOutFlt.map (·.key)).Nodup
  others : ∀ other, other ≠ filterKey host vsi →
    KeyedList.lookup TagVsiBOutFilter.key other work.lstVsiBOutFlt =
      KeyedList.lookup TagVsiBOutFilter.key other flts
  outcome :
    (work.vsi.state = .releaseAll ∧
      KeyedList.lookup TagVsiBOutFilter.key (filterKey host vsi) work.lstVsiBOutFlt = none) ∨
    (work.vsi.state ≠ .releaseAll ∧ VsiOk host.bigendian work.vsi
      (KeyedList.lookup TagVsiBOutFilter.key (filterKey host vsi) work.lstVsiBOutFlt))

theorem VsiOk.not_released {bigendian : Bool} {found : Option TagVsiBOutFilter}
    (ok : VsiOk bigendian vsi found) : vsi.state ≠ .releaseAll := by
  intro released
  rcases ok.resting with state | state | state
  all_goals
    rw [released] at state
    cases state

theorem handled_resting (key : work.vsi.key = vsi.key)
    (single : (work.lstVsiBOutFlt.map (·.key)).Nodup)
    (others : ∀ other, other ≠ filterKey host vsi →
      KeyedList.lookup TagVsiBOutFilter.key other work.lstVsiBOutFlt =
        KeyedList.lookup TagVsiBOutFilter.key other flts)
    (ok : VsiOk host.bigendian work.vsi
      (KeyedList.lookup TagVsiBOutFilter.key (filterKey host vsi) work.lstVsiBOutFlt)) :
    Handled host vsi flts work :=
  ⟨key, single, others, .inr ⟨ok.not_released, ok⟩⟩

theorem handled_unchanged (single : (flts.map (·.key)).Nodup)
    (ok : VsiOk host.bigendian work.vsi
      (KeyedList.lookup TagVsiBOutFilter.key (filterKey host vsi) flts))
    (key : work.vsi.key = vsi.key) (same : work.lstVsiBOutFlt = flts) :
    Handled host vsi flts work := by
  subst same
  exact handled_resting key single (fun _ _ => rfl) ok

theorem handled_released {flts' : List TagVsiBOutFilter} (single : (flts'.map (·.key)).Nodup)
    (others : ∀ other, other ≠ filterKey host vsi →
      KeyedList.lookup TagVsiBOutFilter.key other flts' =
        KeyedList.lookup TagVsiBOutFilter.key other flts)
    (key : work.vsi.key = vsi.key) (released : work.vsi.state = .releaseAll)
    (removed : work.lstVsiBOutFlt = vsiBOutFltDelvsiID (filterKey host vsi) flts') :
    Handled host vsi flts work where
  key := key
  single := by
    rw [removed]
    exact KeyedList.nodup_remove single
  others other apart := by
    rw [removed, vsiBOutFltDelvsiID, KeyedList.lookup_remove_other apart, others other apart]
  outcome := by
    rw [removed]
    exact .inl ⟨released, KeyedList.lookup_remove_self single⟩

theorem noSupport_handled (single : (flts.map (·.key)).Nodup)
    (done : vdpBSm host 3 .evbtlvNoSupport ⟨vsi, flts, sent⟩ = some work) :
    Handled host vsi flts work := by
  have result : work = ⟨{ vsi with state := .releaseAll },
      vsiBOutFltDelvsiID (filterKey host vsi) flts, sent⟩ := by
    cases state : vsi.state <;>
      simpa [vdpBSm, vdpBActions, state, relAll, eq_comm] using done
  subst result
  exact handled_released single (fun _ _ => rfl) rfl rfl rfl

theorem begin_handled (single : (flts.map (·.key)).Nodup) (idle : vsi.state = .idle)
    (ok : VsiOk host.bigendian vsi
      (KeyedList.lookup TagVsiBOutFilter.key (filterKey host vsi) flts))
    (done : vdpBSm host 3 .begin ⟨vsi, flts, sent⟩ = some work) :
    Handled host vsi flts work := by
  have result : work = ⟨{ vsi with
      state := .init, operCmd := none, vsiState := some .deassociate }, flts, sent⟩ := by
    simpa [vdpBSm, vdpBActions, idle, init, eq_comm] using done
  subst result
  have absent : vsi.vsiState ≠ some .associate := by
    intro associated
    have waiting := ok.waiting associated
    rw [idle] at waiting
    cases waiting
  refine handled_unchanged single ⟨.inr (.inl rfl), ?_, ?_, ?_, fun _ => ok.other absent, ok.own⟩
    rfl rfl
  · intro impossible
    cases impossible
  · intro impossible
    cases impossible
  · intro impossible
    cases impossible

theorem timeout_handled (single : (flts.map (·.key)).Nodup) (waiting : vsi.state = .waitStationCmd)
    (done : vdpBSm host 3 .waitwhileEquZero ⟨vsi, flts, sent⟩ = some work) :
    Handled host vsi flts work := by
  have result : work = ⟨{ vsi with state := .releaseAll },
      vsiBOutFltDelvsiID (filterKey host vsi) flts,
      sent ++ txTLVBuildDea host { vsi with state := .deassociated } flts⟩ := by
    simpa [vdpBSm, vdpBActions, waiting, deassoced, relAll, filterKey, TagVsiInstanceB.key,
      eq_comm] using done
  subst result
  exact handled_released single (fun _ _ => rfl) rfl rfl rfl

theorem keepalive_handled (single : (flts.map (·.key)).Nodup)
    (waiting : vsi.state = .waitStationCmd)
    (ok : VsiOk host.bigendian vsi
      (KeyedList.lookup TagVsiBOutFilter.key (filterKey host vsi) flts))
    (done : vdpBSm host 3 .rxcmdEquOpercmd ⟨vsi, flts, sent⟩ = some work) :
    Handled host vsi flts work := by
  have result : work = ⟨{ vsi with
      state := .waitStationCmd, rxCmd := none, vsiState := vsi.operCmdTlvType,
      waitWhile := vsi.toutKeepAlive }, flts,
      sent ++ txTLVOperCmd { vsi with state := .processKeepalive, rxCmd := none }⟩ := by
    simpa [vdpBSm, vdpBActions, waiting, procK, wtSCmd, eq_comm] using done
  subst result
  have same := ok.current waiting
  refine handled_unchanged single ⟨.inr (.inr rfl), fun _ => rfl, fun _ => rfl, ?_, ?_, ?_⟩
    rfl rfl
  · intro associated
    exact ok.associated (same.trans associated)
  · intro other
    exact ok.other fun associated => other (same.symm.trans associated)
  · intro command waits
    cases waits

/-- A command is handled in the states that wait for one. -/
theorem command_handled {event : VdpBSmEvent} {type : VdpTlvType} {vdpass : TagVdpTlvVDPAss}
    (single : (flts.map (·.key)).Nodup) (proc : vdpBActions host event vsi.state = bProc host)
    (waits : vsi.rxCmd = some (type, vdpass))
    (ok : VsiOk host.bigendian vsi
      (KeyedList.lookup TagVsiBOutFilter.key (filterKey host vsi) flts))
    (noReturn : vsi.vsiState = some .associate →
      type ≠ .preAssociate ∧ type ≠ .preAssociateWithRR)
    (done : vdpBSm host 3 event ⟨vsi, flts, sent⟩ = some work) :
    Handled host vsi flts work := by
  have own : (vdpass.vsiIDFormat, vdpass.vsiID) = vsi.key := ok.own _ waits
  -- What the two kinds of pre-association have in common.
  have preassociated (pre : VdpTlvType) (kind : pre ≠ .associate) {after : TagVsiInstanceB}
      (absent : vsi.vsiState ≠ some .associate) (state : after.state = .waitStationCmd)
      (vsiState : after.vsiState = some pre) (current : after.vsiState = after.operCmdTlvType)
      (rxCmd : after.rxCmd = none) :
      VsiOk host.bigendian after
        (KeyedList.lookup TagVsiBOutFilter.key (filterKey host vsi) flts) := by
    have other : after.vsiState ≠ some .associate := by
      rw [vsiState]
      simpa using kind
    refine ⟨.inr (.inr state), fun _ => state, fun _ => current, fun associated =>
      absurd associated other, fun _ => ok.other absent, ?_⟩
    rw [rxCmd]
    simp
  rw [vdpBSm, proc] at done
  cases type with
  | deassociate =>
      simp only [bProc, waits, resouceCmd, vdpBSm, vdpBActions, deassoc, relAll, List.foldlM_cons,
        List.foldlM_nil, Option.bind_eq_bind, Option.bind_some, Option.pure_def,
        Option.some.injEq] at done
      subst done
      exact handled_released single (fun _ _ => rfl) rfl rfl rfl
  | preAssociate =>
      have absent : vsi.vsiState ≠ some .associate := fun associated =>
        (noReturn associated).1 rfl
      simp only [bProc, waits, resouceCmd, vdpBSm, vdpBActions, suc, wtSCmd, List.foldlM_cons,
        List.foldlM_nil, Option.bind_eq_bind, Option.bind_some, Option.pure_def,
        Option.some.injEq] at done
      subst done
      exact handled_unchanged single
        (preassociated .preAssociate (by decide) absent rfl rfl rfl rfl) rfl rfl
  | preAssociateWithRR =>
      have absent : vsi.vsiState ≠ some .associate := fun associated =>
        (noReturn associated).2 rfl
      simp only [bProc, waits, resouceCmd, vdpBSm, vdpBActions, suc, wtSCmd, List.foldlM_cons,
        List.foldlM_nil, Option.bind_eq_bind, Option.bind_some, Option.pure_def,
        Option.some.injEq] at done
      subst done
      exact handled_unchanged single
        (preassociated .preAssociateWithRR (by decide) absent rfl rfl rfl rfl) rfl rfl
  | associate =>
      simp only [bProc, waits, resouceCmd] at done
      generalize added : vsiBOutFltAddvsiID _ _ _ _ _ _ = result at done
      cases result with
      | none => cases done
      | some result =>
          obtain ⟨went, flts'⟩ := result
          have ⟨flt, placed, holds⟩ := addvsiID_spec single added
          have place : (host.port, vdpass.vsiIDFormat, vdpass.vsiID) = filterKey host vsi :=
            congrArg _ own
          rw [place] at placed
          cases went with
          | true =>
              simp only [vdpBSm, vdpBActions, suc, wtSCmd, List.foldlM_cons, List.foldlM_nil,
                Option.bind_eq_bind, Option.bind_some, Option.pure_def,
                Option.some.injEq] at done
              subst done
              refine handled_resting rfl placed.single placed.others ⟨.inr (.inr rfl), fun _ => rfl,
                fun _ => rfl, fun _ => ⟨flt, _, placed.self, rfl, holds rfl⟩,
                fun other => absurd rfl other, ?_⟩
              intro command waits
              cases waits
          | false =>
              simp only [vdpBSm, vdpBActions, bErr, setRespError, deassoc, relAll,
                List.foldlM_cons, List.foldlM_nil, Option.bind_eq_bind, Option.bind_some,
                Option.pure_def, Option.some.injEq] at done
              subst done
              exact handled_released placed.single placed.others rfl rfl rfl

theorem VsiOk.waited {bigendian : Bool} {found : Option TagVsiBOutFilter}
    (ok : VsiOk bigendian vsi found) (waitWhile : UInt32) :
    VsiOk bigendian { vsi with waitWhile } found :=
  ⟨ok.resting, ok.waiting, ok.current, ok.associated, ok.other, ok.own⟩

theorem init_handled (single : (flts.map (·.key)).Nodup) (init : vsi.state = .init)
    (ok : VsiOk host.bigendian vsi
      (KeyedList.lookup TagVsiBOutFilter.key (filterKey host vsi) flts))
    (done : tickVsi host true ⟨vsi, flts, sent⟩ = some work) : Handled host vsi flts work := by
  have fresh : vsi.vsiState ≠ some .associate := by
    intro associated
    have waiting := ok.waiting associated
    rw [init] at waiting
    cases waiting
  simp only [tickVsi, init, Bool.not_true, Bool.false_eq_true, if_false, reduceCtorEq,
    if_true] at done
  split at done
  · simp only [vdpBSm, vdpBActions, init, relAll, List.foldlM_nil, Option.pure_def,
      Option.some.injEq] at done
    subst done
    exact handled_released single (fun _ _ => rfl) rfl rfl rfl
  cases waits : vsi.rxCmd with
  | none =>
      rw [waits] at done
      simp only [Option.isSome_none, Bool.false_eq_true, if_false, Option.some.injEq] at done
      subst done
      exact handled_unchanged single ok rfl rfl
  | some command =>
      rw [waits] at done
      simp only [Option.isSome_some, if_true] at done
      refine command_handled single ?_ waits ok (fun associated => absurd associated fresh) done
      rw [init]
      rfl

theorem waiting_handled (single : (flts.map (·.key)).Nodup) (waiting : vsi.state = .waitStationCmd)
    (noReturn : NoReturn vsi)
    (ok : VsiOk host.bigendian vsi
      (KeyedList.lookup TagVsiBOutFilter.key (filterKey host vsi) flts))
    (done : tickVsi host true ⟨vsi, flts, sent⟩ = some work) : Handled host vsi flts work := by
  obtain ⟨vsiIDFormat, vsiID, vsimgrID, toutKeepAlive, state, operCmd, operCmdTlvType, vsiState,
    rxCmd, bridgeExit, resp, before⟩ := vsi
  have state_eq : state = .waitStationCmd := waiting
  subst state_eq
  simp only [tickVsi, Bool.not_true, Bool.false_eq_true, if_false, reduceCtorEq, if_true] at done
  generalize passed : (if before > VDP_LOOP_TIMER_INTREVAL then
    before - VDP_LOOP_TIMER_INTREVAL else 0) = waitWhile at done
  have ok' := ok.waited waitWhile
  -- The filter is looked up by what the tick leaves unchanged.
  have same {work : Work} (handled : Handled host ⟨vsiIDFormat, vsiID, vsimgrID, toutKeepAlive,
      .waitStationCmd, operCmd, operCmdTlvType, vsiState, rxCmd, bridgeExit, resp, waitWhile⟩
      flts work) : Handled host ⟨vsiIDFormat, vsiID, vsimgrID, toutKeepAlive, .waitStationCmd,
        operCmd, operCmdTlvType, vsiState, rxCmd, bridgeExit, resp, before⟩ flts work :=
    ⟨handled.key, handled.single, handled.others, handled.outcome⟩
  split at done
  · simp only [vdpBSm, vdpBActions, bErr, List.foldlM_nil, Option.pure_def,
      Option.some.injEq] at done
    subst done
    exact same (handled_unchanged single ok' rfl rfl)
  split at done
  · exact same (timeout_handled single rfl done)
  rename_i timely
  have late : VDP_LOOP_TIMER_INTREVAL < before := by
    by_contra early
    rw [if_neg early] at passed
    exact timely passed.symm
  cases rxCmd with
  | none =>
      simp only [Option.isSome_none, Bool.false_eq_true, if_false, Option.some.injEq] at done
      subst done
      exact same (handled_unchanged single ok' rfl rfl)
  | some command =>
      simp only [Option.isSome_some, if_true] at done
      split at done
      · exact same (keepalive_handled single rfl ok' done)
      · refine same (command_handled single rfl rfl ok' ?_ done)
        intro associated
        have ⟨pre, preRR⟩ := noReturn associated late
        exact ⟨fun same => pre (congrArg some same), fun same => preRR (congrArg some same)⟩

theorem tickVsi_handled {evbTlvStatusSucc : Bool} (single : (flts.map (·.key)).Nodup)
    (noReturn : evbTlvStatusSucc = true → NoReturn vsi)
    (ok : VsiOk host.bigendian vsi
      (KeyedList.lookup TagVsiBOutFilter.key (filterKey host vsi) flts))
    (done : tickVsi host evbTlvStatusSucc ⟨vsi, flts, sent⟩ = some work) :
    Handled host vsi flts work := by
  cases evbTlvStatusSucc with
  | false =>
      rw [tickVsi] at done
      exact noSupport_handled single done
  | true =>
      rcases ok.resting with idle | init | waiting
      · simp only [tickVsi, idle, Bool.not_true, Bool.false_eq_true, if_false, if_true] at done
        exact begin_handled single idle ok done
      · exact init_handled single init ok done
      · exact waiting_handled single waiting (noReturn rfl) ok done

/-- What a tick over the VSIs of a port leaves, each VSI handled by itself. -/
structure Ticked (host : Host) (lstVsi : List TagVsiInstanceB) (flts : List TagVsiBOutFilter)
    (lstVsi' : List TagVsiInstanceB) (flts' : List TagVsiBOutFilter) : Prop where
  keys : lstVsi'.map (·.key) = lstVsi.map (·.key)
  single : (flts'.map (·.key)).Nodup
  others : ∀ other, (∀ vsi ∈ lstVsi, other ≠ filterKey host vsi) →
    KeyedList.lookup TagVsiBOutFilter.key other flts' =
      KeyedList.lookup TagVsiBOutFilter.key other flts
  outcome : ∀ vsi ∈ lstVsi',
    (vsi.state = .releaseAll ∧
      KeyedList.lookup TagVsiBOutFilter.key (filterKey host vsi) flts' = none) ∨
    (vsi.state ≠ .releaseAll ∧ VsiOk host.bigendian vsi
      (KeyedList.lookup TagVsiBOutFilter.key (filterKey host vsi) flts'))

theorem filterKey_ne {other : TagVsiInstanceB} (apart : other.key ≠ vsi.key) :
    filterKey host other ≠ filterKey host vsi := fun same => apart (Prod.mk.inj same).2

theorem tickVsis_ticked {evbTlvStatusSucc : Bool} {lstVsi lstVsi' : List TagVsiInstanceB}
    {flts' : List TagVsiBOutFilter} (alone : (lstVsi.map (·.key)).Nodup)
    (single : (flts.map (·.key)).Nodup)
    (noReturn : evbTlvStatusSucc = true → ∀ vsi ∈ lstVsi, NoReturn vsi)
    (ok : ∀ vsi ∈ lstVsi, VsiOk host.bigendian vsi
      (KeyedList.lookup TagVsiBOutFilter.key (filterKey host vsi) flts))
    (done : tickVsis host evbTlvStatusSucc lstVsi flts = some (lstVsi', flts', sent)) :
    Ticked host lstVsi flts lstVsi' flts' := by
  induction lstVsi generalizing flts lstVsi' flts' sent with
  | nil =>
      simp only [tickVsis, Option.some.injEq, Prod.mk.injEq] at done
      obtain ⟨rfl, rfl, rfl⟩ := done
      exact ⟨rfl, single, fun _ _ => rfl, fun vsi mem => by cases mem⟩
  | cons vsi rest ih =>
      rw [tickVsis] at done
      rw [List.map_cons, List.nodup_cons] at alone
      cases first : tickVsi host evbTlvStatusSucc ⟨vsi, flts, []⟩ with
      | none => simp [first] at done
      | some work =>
          have handled := tickVsi_handled single
            (fun succ => noReturn succ vsi List.mem_cons_self) (ok vsi List.mem_cons_self) first
          have apart : ∀ other ∈ rest, filterKey host other ≠ filterKey host vsi := by
            intro other mem
            refine filterKey_ne fun same => alone.1 ?_
            rw [← same]
            exact List.mem_map_of_mem mem
          cases later : tickVsis host evbTlvStatusSucc rest work.lstVsiBOutFlt with
          | none => simp [first, later] at done
          | some result =>
              obtain ⟨rest', flts'', sent'⟩ := result
              simp only [first, later, Option.some.injEq, Prod.mk.injEq] at done
              obtain ⟨rfl, rfl, rfl⟩ := done
              have ticked := ih alone.2 handled.single
                (fun succ other mem => noReturn succ other (List.mem_cons_of_mem _ mem))
                (fun other mem => by
                  rw [handled.others _ (apart other mem)]
                  exact ok other (List.mem_cons_of_mem _ mem)) later
              have own : filterKey host work.vsi = filterKey host vsi := by
                rw [filterKey, handled.key, filterKey]
              have untouched := ticked.others (filterKey host vsi) fun other mem =>
                (apart other mem).symm
              refine ⟨?_, ticked.single, ?_, ?_⟩
              · rw [List.map_cons, List.map_cons, handled.key, ticked.keys]
              · intro other away
                rw [ticked.others other fun v mem => away v (List.mem_cons_of_mem _ mem),
                  handled.others other (away vsi List.mem_cons_self)]
              · intro v mem
                cases mem with
                | head =>
                    rw [own, untouched]
                    exact handled.outcome
                | tail _ mem => exact ticked.outcome v mem

end Machine

section Bridge

variable {bigendian : Bool} {bridge next : Bridge}

/-- The VSIs of a port, with the filters that are found for them. -/
structure PortOk (bigendian : Bool) (port : UInt32) (flts : List TagVsiBOutFilter)
    (lstVsi : List TagVsiInstanceB) : Prop where
  alone : (lstVsi.map (·.key)).Nodup
  each : ∀ vsi ∈ lstVsi, VsiOk bigendian vsi
    (KeyedList.lookup TagVsiBOutFilter.key (port, vsi.key) flts)
  owned : ∀ key flt, KeyedList.lookup TagVsiBOutFilter.key (port, key) flts = some flt →
    ∃ vsi ∈ lstVsi, vsi.key = key

/-- What holds between two calls. -/
structure Bridge.Settled (bigendian : Bool) (bridge : Bridge) : Prop where
  single : (bridge.lstVsiBOutFlt.map (·.key)).Nodup
  ports : ∀ port, PortOk bigendian port bridge.lstVsiBOutFlt (bridge.vdp port)

theorem settled_start (bigendian : Bool) : Bridge.start.Settled bigendian where
  single := List.nodup_nil
  ports port := by
    refine ⟨List.nodup_nil, ?_, ?_⟩
    · intro vsi mem
      cases mem
    · intro key flt found
      cases found

theorem Bridge.Settled.consistent (settled : bridge.Settled bigendian) :
    bridge.Consistent bigendian where
  alone port := (settled.ports port).alone
  single := settled.single
  installed port key := by
    constructor
    · rintro ⟨flt, mem, eq⟩
      have found := KeyedList.lookup_of_mem settled.single mem
      rw [eq] at found
      have ⟨vsi, here, same⟩ := (settled.ports port).owned key flt found
      refine ⟨vsi, here, same, ?_⟩
      by_contra other
      have absent := ((settled.ports port).each vsi here).other other
      rw [same, found] at absent
      cases absent
    · rintro ⟨vsi, here, same, associated⟩
      have ⟨flt, _, found, _, _⟩ := ((settled.ports port).each vsi here).associated associated
      rw [same] at found
      exact ⟨flt, KeyedList.mem_of_lookup found, KeyedList.key_of_lookup found⟩
  entries port vsi here flt mem eq := by
    have found := KeyedList.lookup_of_mem settled.single mem
    rw [eq] at found
    have ok := (settled.ports port).each vsi here
    have associated : vsi.vsiState = some .associate := by
      by_contra other
      have absent := ok.other other
      rw [found] at absent
      cases absent
    have ⟨flt', vdpass, found', oper, holds⟩ := ok.associated associated
    rw [found, Option.some.injEq] at found'
    subst found'
    exact ⟨vdpass, oper, (ok.current (ok.waiting associated)).symm.trans associated, holds⟩

/-- A call changes the VSIs of one port only. -/
theorem settled_update {port : UInt32} {flts : List TagVsiBOutFilter}
    {lstVsi : List TagVsiInstanceB} (single : (flts.map (·.key)).Nodup)
    (here : PortOk bigendian port flts lstVsi)
    (elsewhere : ∀ other, other ≠ port → PortOk bigendian other flts (bridge.vdp other)) :
    (Bridge.mk (Function.update bridge.vdp port lstVsi) flts).Settled bigendian where
  single := single
  ports other := by
    by_cases same : other = port
    · subst same
      simpa only [Function.update_self] using here
    · simpa only [Function.update_of_ne same] using elsewhere other same

theorem PortOk.unchanged {port : UInt32} {flts flts' : List TagVsiBOutFilter}
    {lstVsi : List TagVsiInstanceB} (ok : PortOk bigendian port flts lstVsi)
    (same : ∀ key, KeyedList.lookup TagVsiBOutFilter.key (port, key) flts' =
      KeyedList.lookup TagVsiBOutFilter.key (port, key) flts) :
    PortOk bigendian port flts' lstVsi where
  alone := ok.alone
  each vsi mem := by
    rw [same]
    exact ok.each vsi mem
  owned key flt found := by
    rw [same] at found
    exact ok.owned key flt found

theorem portOk_ticked {host : Host} {flts flts' : List TagVsiBOutFilter}
    {lstVsi lstVsi' : List TagVsiInstanceB} (ok : PortOk host.bigendian host.port flts lstVsi)
    (ticked : Ticked host lstVsi flts lstVsi' flts') :
    PortOk host.bigendian host.port flts' (vdpBCanDestoryVsi lstVsi') where
  alone := by
    refine List.Nodup.sublist (List.filter_sublist.map _) ?_
    rw [ticked.keys]
    exact ok.alone
  each vsi mem := by
    rw [vdpBCanDestoryVsi, List.mem_filter] at mem
    rcases ticked.outcome vsi mem.1 with ⟨released, _⟩ | ⟨_, ok⟩
    · simp [released] at mem
    · exact ok
  owned key flt found := by
    have known : key ∈ lstVsi'.map (·.key) := by
      by_contra unknown
      rw [ticked.keys] at unknown
      have same := ticked.others (host.port, key) fun vsi mem same =>
        unknown ((Prod.mk.inj same).2 ▸ List.mem_map_of_mem mem)
      rw [same] at found
      have ⟨vsi, mem, eq⟩ := ok.owned key flt found
      exact unknown (eq ▸ List.mem_map_of_mem mem)
    have ⟨vsi, mem, eq⟩ := List.mem_map.mp known
    have kept : vsi.state ≠ .releaseAll := by
      rcases ticked.outcome vsi mem with ⟨_, absent⟩ | ⟨kept, _⟩
      · rw [filterKey, eq, found] at absent
        cases absent
      · exact kept
    exact ⟨vsi, List.mem_filter.mpr ⟨mem, by simpa using kept⟩, eq⟩

theorem settled_tick {port : UInt32} {evbTlvStatusSucc : Bool}
    {accepts : UInt8 × Vector UInt8 16 → TagVdpFltGroupMacVid → Bool}
    (settled : bridge.Settled bigendian)
    (clean : bridge.Clean (.tick port evbTlvStatusSucc accepts))
    (step : BridgeStep bigendian bridge (.tick port evbTlvStatusSucc accepts) next) :
    next.Settled bigendian := by
  rw [BridgeStep, Bridge.call, vdpBLoopTimerHandler] at step
  cases done : tickVsis ⟨bigendian, port, accepts⟩ evbTlvStatusSucc (bridge.vdp port)
      bridge.lstVsiBOutFlt with
  | none => simp [done] at step
  | some result =>
      obtain ⟨lstVsi, flts, sent⟩ := result
      simp only [done, Option.map_some, Option.some.injEq] at step
      subst step
      have ok := settled.ports port
      have ticked := tickVsis_ticked ok.alone settled.single clean ok.each done
      refine settled_update ticked.single (portOk_ticked ok ticked) fun other apart => ?_
      refine (settled.ports other).unchanged fun key => ?_
      exact ticked.others _ fun vsi _ same => apart (Prod.mk.inj same).1

theorem portOk_command {port : UInt32} {flts : List TagVsiBOutFilter}
    {lstVsi : List TagVsiInstanceB} (toutKeepAlive : UInt32) (mgrID : Vector UInt8 16)
    (command : VdpTlvType × TagVdpTlvVDPAss) (ok : PortOk bigendian port flts lstVsi) :
    PortOk bigendian port flts (vdpBRxCommand toutKeepAlive mgrID lstVsi command) := by
  rw [vdpBRxCommand]
  cases present : KeyedList.lookup TagVsiInstanceB.key
      (command.2.vsiIDFormat, command.2.vsiID) lstVsi with
  | some old =>
      simp only [Option.isSome_some, if_true]
      have keys : (KeyedList.replace TagVsiInstanceB.key
          (command.2.vsiIDFormat, command.2.vsiID)
          (fun pVsi => { pVsi with vsimgrID := mgrID, rxCmd := some command }) lstVsi).map (·.key) =
          lstVsi.map (·.key) := KeyedList.map_replace fun _ => rfl
      refine ⟨keys ▸ ok.alone, ?_, ?_⟩
      · intro vsi mem
        rcases KeyedList.mem_replace mem with old | ⟨old', found, rfl⟩
        · exact ok.each vsi old
        · have own := KeyedList.key_of_lookup found
          have before := ok.each old' (KeyedList.mem_of_lookup found)
          refine ⟨before.resting, before.waiting, before.current, before.associated,
            before.other, ?_⟩
          intro other waits
          cases waits
          exact own.symm
      · intro key flt found
        obtain ⟨vsi, mem, eq⟩ := ok.owned key flt found
        have known : key ∈ lstVsi.map (·.key) := eq ▸ List.mem_map_of_mem mem
        rw [← keys] at known
        exact List.mem_map.mp known
  | none =>
      simp only [Option.isSome_none, Bool.false_eq_true, if_false, Ecp.listInsert_eq]
      have new : (command.2.vsiIDFormat, command.2.vsiID) ∉ lstVsi.map (·.key) :=
        KeyedList.lookup_eq_none.mp present
      have free : KeyedList.lookup TagVsiBOutFilter.key
          (port, command.2.vsiIDFormat, command.2.vsiID) flts = none := by
        cases found : KeyedList.lookup TagVsiBOutFilter.key
            (port, command.2.vsiIDFormat, command.2.vsiID) flts with
        | none => rfl
        | some flt =>
            obtain ⟨vsi, mem, eq⟩ := ok.owned _ flt found
            exact absurd (eq ▸ List.mem_map_of_mem mem) new
      refine ⟨?_, ?_, ?_⟩
      · rw [List.map_cons, List.nodup_cons]
        exact ⟨new, ok.alone⟩
      · intro vsi mem
        cases mem with
        | head =>
            refine ⟨.inl rfl, ?_, ?_, ?_, fun _ => free, ?_⟩
            · intro impossible
              cases impossible
            · intro impossible
              cases impossible
            · intro impossible
              cases impossible
            · intro other waits
              cases waits
              rfl
        | tail _ mem => exact ok.each vsi mem
      · intro key flt found
        obtain ⟨vsi, mem, eq⟩ := ok.owned key flt found
        exact ⟨vsi, List.mem_cons_of_mem _ mem, eq⟩

theorem portOk_receive {port : UInt32} {flts : List TagVsiBOutFilter}
    {lstVsi : List TagVsiInstanceB} (toutKeepAlive : UInt32) (buf : List UInt8)
    (ok : PortOk bigendian port flts lstVsi) :
    PortOk bigendian port flts (vdpBReceive bigendian toutKeepAlive buf lstVsi) := by
  rw [vdpBReceive]
  cases vdpBRxReceiveFrame bigendian buf with
  | none => exact ok
  | some rx =>
      change PortOk bigendian port flts (rx.commands.foldl _ lstVsi)
      generalize rx.commands = commands
      induction commands generalizing lstVsi with
      | nil => exact ok
      | cons command rest ih =>
          exact ih (portOk_command toutKeepAlive rx.mgrID command ok)

theorem settled_receive {port toutKeepAlive : UInt32} {buf : List UInt8}
    (settled : bridge.Settled bigendian)
    (step : BridgeStep bigendian bridge (.receive port toutKeepAlive buf) next) :
    next.Settled bigendian := by
  rw [BridgeStep, Bridge.call, Option.some.injEq] at step
  subst step
  exact settled_update settled.single (portOk_receive toutKeepAlive buf (settled.ports port))
    fun other _ => settled.ports other

/-- The installed filters are those of the associated VSIs as long as no associated VSI goes back
to a pre-association. -/
theorem consistent_of_clean {labels : List BridgeCall}
    (run : Run (Guarded Bridge.Clean (BridgeStep bigendian)) Bridge.start labels bridge) :
    bridge.Consistent bigendian := by
  have settled : bridge.Settled bigendian := by
    refine run.invariant (settled_start bigendian) ?_
    intro last label next kept taken
    cases label with
    | receive port toutKeepAlive buf => exact settled_receive kept taken.2
    | tick port evbTlvStatusSucc accepts => exact settled_tick kept taken.1 taken.2
  exact settled.consistent

end Bridge

section Examples

def Bridge.next (bridge : Bridge) (label : BridgeCall) : Bridge :=
  (bridge.call true label).getD bridge

theorem step_next {label : BridgeCall} (bridge : Bridge)
    (defined : (bridge.call true label).isSome = true) :
    BridgeStep true bridge label (bridge.next label) := by
  rw [BridgeStep, Bridge.next]
  cases called : bridge.call true label with
  | none => simp [called] at defined
  | some next => rfl

def exampleReceive (type : VdpTlvType) : BridgeCall :=
  .receive 7 1048576 (((vsiProfileToVsitlv examplePro type).map (·.sent)).getD [])

def exampleTick : BridgeCall := .tick 7 true fun _ _ => true

/-- After an association its entry is installed. -/
theorem installed_after_associate :
    let bridge := [exampleReceive .associate, exampleTick, exampleTick].foldl Bridge.next
      Bridge.start
    bridge.lstVsiBOutFlt.map (·.lstFlt.length) = [1] ∧ bridge.Consistent true := by
  intro bridge
  have clean (bridge : Bridge) (calm : ∀ vsi ∈ bridge.vdp 7, NoReturn vsi) :
      bridge.Clean exampleTick := fun _ => calm
  have run : Run (Guarded Bridge.Clean (BridgeStep true)) Bridge.start
      [exampleReceive .associate, exampleTick, exampleTick] bridge :=
    ((Run.refl.snoc ⟨trivial, step_next _ (by decide)⟩).snoc
      ⟨clean _ (by decide), step_next _ (by decide)⟩).snoc
        ⟨clean _ (by decide), step_next _ (by decide)⟩
  exact ⟨by decide, consistent_of_clean run⟩

/-- The filter of an association stays when the VSI is pre-associated again. -/
theorem kept_after_preAssociate :
    ¬ ∀ bigendian labels bridge, Run (BridgeStep bigendian) Bridge.start labels bridge →
      bridge.Consistent bigendian := by
  intro all
  let bridge := [exampleReceive .associate, exampleTick, exampleTick, exampleReceive .preAssociate,
    exampleTick].foldl Bridge.next Bridge.start
  have run : Run (BridgeStep true) Bridge.start [exampleReceive .associate, exampleTick,
      exampleTick, exampleReceive .preAssociate, exampleTick] bridge :=
    ((((Run.refl.snoc (step_next _ (by decide))).snoc
      (step_next _ (by decide))).snoc (step_next _ (by decide))).snoc
        (step_next _ (by decide))).snoc (step_next _ (by decide))
  have installed := ((all true _ _ run).installed 7 (5, .replicate 16 1)).mp (by decide)
  revert installed
  decide

end Examples

end Tecs.Vdp
