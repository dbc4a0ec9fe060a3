import Tecs.Evb.CdcpLists
import Tecs.Evb.CdcpRoundTrip
import Tecs.Library.Run

set_option autoImplicit false

/-! The S-VIDs that a bridge gives to the channels of a station. -/

namespace Tecs.Cdcp

open Transition

inductive BridgeCall
  | rchange (enabled : Bool) (tlv : UnpackedTlv)
  | run
  | pool (wMinVID wMaxVID : UInt16)
  | chnCap (wAdminChnCap : UInt16)
  | ifDown

section Definitions

variable (bigendian : Bool) (data : TagCdcpRunningData)

def bridgeCall : BridgeCall → Option TagCdcpRunningData
  | .rchange enabled tlv => cdcpRChange bigendian enabled tlv data
  | .run => some (runCdcpSM data)
  | .pool wMinVID wMaxVID =>
      some { data with tLocalSVIDPool := setVlanPool data.tLocalSVIDPool wMinVID wMaxVID }
  | .chnCap wAdminChnCap => some { data with wAdminChnCap }
  | .ifDown => some (clearCdcpRunningData data)

def BridgeStep (label : BridgeCall) (next : TagCdcpRunningData) : Prop :=
  bridgeCall bigendian data label = some next

def svids (pairs : List TagCdcpScidSvidPair) (id : UInt16) : Prop := id ∈ pairs.map (·.wSvid)

/-- The channels, and the marks of the pool and of its copy. -/
structure InStep : Prop where
  scids : (data.lstOperSVIDList.map (·.wScid)).Nodup
  distinct : (data.lstOperSVIDList.map (·.wSvid)).Nodup
  nonzero : ∀ pair ∈ data.lstOperSVIDList, pair.wSvid ≠ 0
  pooled : ∀ pair ∈ data.lstOperSVIDList,
    pair = ⟨1, 1⟩ ∨ pair.wSvid ∈ ids data.tLocalSVIDPool.tVlanPoolHead
  marked : Marked data.tLocalSVIDPool.tVlanPoolHead (svids data.lstOperSVIDList)
  copied : Marked data.tLastSVIDPool.tVlanPoolHead (svids data.lstOperSVIDList)

/-- No channel but the default one. -/
abbrev Plain : Prop := ∀ pair ∈ data.lstOperSVIDList, pair = ⟨1, 1⟩

/-- What a run of the machine must find: it takes no channel away, and neither 0 nor 1 is a VLAN
that it would hand out or leave without a mark. -/
abbrev RunSteady : Prop :=
  if data.ucSchState = .running ∧ data.ucRemoteRole ≠ .s then Plain data
  else if data.ucRemoteRole = .s ∧
      (compareVlanPool data.tLastSVIDPool data.tLocalSVIDPool = false ∨
        compareScidSvidList data.lstLastRemoteSVIDList data.lstRemoteSVIDList = false) then
    if data.lstOperSVIDList = [] then 1 ∉ ids data.tLocalSVIDPool.tVlanPoolHead
    else
      (∀ pair ∈ data.lstOperSVIDList,
        pair = ⟨1, 1⟩ ∨ isInScidSvidList pair data.lstRemoteSVIDList = true) ∧
      (0 ∉ ids data.tLocalSVIDPool.tVlanPoolHead ∨
        ∀ pair ∈ data.lstRemoteSVIDList, isInScidSvidList pair data.lstOperSVIDList = true)
  else True

def Steady : BridgeCall → Prop
  | .rchange _ tlv => tlv.type = 0 → data.pRxTlv.isSome = true → RunSteady data
  | .run => RunSteady data
  | .pool wMinVID wMaxVID =>
      (wMinVID = data.tLocalSVIDPool.wMinVlanID ∧ wMaxVID = data.tLocalSVIDPool.wMaxVlanID) ∨
        (Plain data ∧ (data.lstOperSVIDList = [] ∨ 1 ∉ ids (vlanRange wMinVID wMaxVID)))
  | .chnCap _ => True
  | .ifDown => Plain data

instance : (label : BridgeCall) → Decidable (Steady data label)
  | .rchange _ tlv =>
      inferInstanceAs (Decidable (tlv.type = 0 → data.pRxTlv.isSome = true → RunSteady data))
  | .run => inferInstanceAs (Decidable (RunSteady data))
  | .pool _ _ => inferInstanceAs (Decidable (_ ∨ _))
  | .chnCap _ => inferInstanceAs (Decidable True)
  | .ifDown => inferInstanceAs (Decidable (Plain data))

/-- With what the steps need besides: a pool that is not copied yet is new. -/
structure Settled : Prop extends InStep data where
  adminRole : data.ucAdminRole = .b
  operRole : data.ucOperRole = .b
  ranged : Ranged data.tLocalSVIDPool
  rangedLast : Ranged data.tLastSVIDPool
  default : data.lstOperSVIDList ≠ [] → ⟨1, 1⟩ ∈ data.lstOperSVIDList ∧
    1 ∉ ids data.tLocalSVIDPool.tVlanPoolHead ∧ 1 ∉ ids data.tLastSVIDPool.tVlanPoolHead
  fresh : compareVlanPool data.tLastSVIDPool data.tLocalSVIDPool = false → Plain data

end Definitions

section Assign

/-- The channels against one pool. -/
structure Consistent (pairs : List TagCdcpScidSvidPair) (pool : TagCdcpVlanPool) : Prop where
  scids : (pairs.map (·.wScid)).Nodup
  distinct : (pairs.map (·.wSvid)).Nodup
  nonzero : ∀ pair ∈ pairs, pair.wSvid ≠ 0
  pooled : ∀ pair ∈ pairs, pair = ⟨1, 1⟩ ∨ pair.wSvid ∈ ids pool.tVlanPoolHead
  marked : Marked pool.tVlanPoolHead (svids pairs)

variable {pairs : List TagCdcpScidSvidPair} {pool : TagCdcpVlanPool}

/-- Where every channel is known, none is assigned. -/
theorem assignSVIDs_known (remote : List TagCdcpScidSvidPair)
    (known : ∀ pair ∈ remote, isInScidSvidList pair pairs = true) :
    assignSVIDs remote pairs pool = (pairs, pool) := by
  induction remote with
  | nil => rfl
  | cons elm rest ih =>
      rw [assignSVIDs, if_pos (known elm List.mem_cons_self)]
      exact ih fun pair mem => known pair (List.mem_cons_of_mem _ mem)

/-- A channel gets a free VLAN. -/
theorem Consistent.insert (consistent : Consistent pairs pool)
    (nodup : (ids pool.tVlanPoolHead).Nodup) (elm : TagCdcpScidSvidPair)
    (unknown : isInScidSvidList elm pairs = false) (given : (allocSVID pool).1 ≠ 0)
    (free : ∃ vlan ∈ pool.tVlanPoolHead, vlan.ucIsUse = false) :
    Consistent (insertElmByScidAscendingOrder ⟨elm.wScid, (allocSVID pool).1⟩ pairs)
      (allocSVID pool).2 := by
  have ⟨mem, unmarked, same, marked⟩ := alloc_free nodup consistent.marked free
  have perm := insert_perm ⟨elm.wScid, (allocSVID pool).1⟩ pairs
  have absent : elm.wScid ∉ pairs.map (·.wScid) := by
    rw [← isIn_iff, unknown]
    simp
  refine ⟨?_, ?_, ?_, ?_, ?_⟩
  · rw [(perm.map _).nodup_iff, List.map_cons]
    exact List.nodup_cons.mpr ⟨absent, consistent.scids⟩
  · rw [(perm.map _).nodup_iff, List.map_cons]
    exact List.nodup_cons.mpr ⟨unmarked, consistent.distinct⟩
  · intro pair mem'
    rcases mem_insert.mp mem' with rfl | old
    · exact given
    · exact consistent.nonzero pair old
  · intro pair mem'
    rcases mem_insert.mp mem' with rfl | old
    · exact .inr (same ▸ mem)
    · have pooled := consistent.pooled pair old
      exact pooled.imp_right fun inside => same ▸ inside
  · refine marked.congr fun id _ => ?_
    rw [svids, svids, (perm.map _).mem_iff, List.map_cons, List.mem_cons]
    rfl

theorem ids_alloc (nodup : (ids pool.tVlanPoolHead).Nodup) (consistent : Consistent pairs pool)
    (free : ∃ vlan ∈ pool.tVlanPoolHead, vlan.ucIsUse = false) :
    ids (allocSVID pool).2.tVlanPoolHead = ids pool.tVlanPoolHead ∧
      (allocSVID pool).1 ∈ ids pool.tVlanPoolHead := by
  have ⟨mem, _, same, _⟩ := alloc_free nodup consistent.marked free
  exact ⟨same, mem⟩

/-- Assigning keeps the channels and the marks in step. -/
theorem assignSVIDs_consistent (remote : List TagCdcpScidSvidPair) :
    ∀ pairs pool, (ids pool.tVlanPoolHead).Nodup → 0 ∉ ids pool.tVlanPoolHead →
      Consistent pairs pool →
      let done := assignSVIDs remote pairs pool
      Consistent done.1 done.2 ∧ ids done.2.tVlanPoolHead = ids pool.tVlanPoolHead ∧
        done.2.wMinVlanID = pool.wMinVlanID ∧ done.2.wMaxVlanID = pool.wMaxVlanID ∧
        ∀ pair ∈ pairs, pair ∈ done.1 := by
  induction remote with
  | nil =>
      intro pairs pool _ _ consistent
      exact ⟨consistent, rfl, rfl, rfl, fun _ => id⟩
  | cons elm rest ih =>
      intro pairs pool nodup nozero consistent
      rw [assignSVIDs]
      split
      · exact ih pairs pool nodup nozero consistent
      next unknown =>
      split
      · exact ih pairs pool nodup nozero consistent
      by_cases free : ∃ vlan ∈ pool.tVlanPoolHead, vlan.ucIsUse = false
      · have ⟨same, mem⟩ := ids_alloc nodup consistent free
        have given : (allocSVID pool).1 ≠ 0 := fun zero => nozero (zero ▸ mem)
        have inserted := consistent.insert nodup elm (by simpa using unknown) given free
        have ⟨consistent', same', low, high, kept⟩ := ih _ (allocSVID pool).2
          (same.symm ▸ nodup) (same.symm ▸ nozero) inserted
        simp only [if_neg (Ne.symm given)]
        refine ⟨consistent', same'.trans same, low, high, ?_⟩
        exact fun pair old => kept pair (mem_insert.mpr (.inr old))
      · have full : ∀ vlan ∈ pool.tVlanPoolHead, vlan.ucIsUse = true := by
          intro vlan mem
          by_contra unused
          exact free ⟨vlan, mem, by simpa using unused⟩
        have none : allocSVID pool = (0, pool) := by
          rw [allocSVID, alloc_full full]
        simp only [none, if_true]
        exact ⟨consistent, trivial, trivial, trivial, fun _ => id⟩

/-- What the configuration of a bridge leaves: the pool as it was but for its marks. -/
theorem txSVIDConfig_consistent {remote : List TagCdcpScidSvidPair}
    (nodup : (ids pool.tVlanPoolHead).Nodup) (consistent : Consistent pairs pool)
    (default : pairs ≠ [] → ⟨1, 1⟩ ∈ pairs)
    (steady : if pairs = [] then 1 ∉ ids pool.tVlanPoolHead
      else (∀ pair ∈ pairs, pair = ⟨1, 1⟩ ∨ isInScidSvidList pair remote = true) ∧
        (0 ∉ ids pool.tVlanPoolHead ∨ ∀ pair ∈ remote, isInScidSvidList pair pairs = true)) :
    let done := txSVIDConfig pool remote pairs
    Consistent done.1 done.2 ∧ ids done.2.tVlanPoolHead = ids pool.tVlanPoolHead ∧
      done.2.wMinVlanID = pool.wMinVlanID ∧ done.2.wMaxVlanID = pool.wMaxVlanID ∧
      (∀ pair ∈ pairs, pair ∈ done.1) ∧ ⟨1, 1⟩ ∈ done.1 := by
  rw [txSVIDConfig]
  by_cases empty : pairs = []
  · rw [if_pos empty] at steady
    subst empty
    refine ⟨⟨by simp, by simp, ?_, ?_, ?_⟩, rfl, rfl, rfl, nofun, by simp⟩
    · simp
    · simp
    · refine consistent.marked.congr fun id mem => ?_
      have apart : id ≠ 1 := fun same => steady (same ▸ mem)
      simp [svids, apart]
  · rw [if_neg empty] at steady
    have kept : pairs.filter (fun elm => (1 = elm.wScid ∧ 1 = elm.wSvid) ∨
        isInScidSvidList elm remote = true) = pairs := by
      rw [List.filter_eq_self]
      intro pair mem
      rcases steady.1 pair mem with rfl | known
      · rfl
      · simp [known]
    have more : pairs.isEmpty = false := by simpa using empty
    rw [more, removeInactive_eq, kept, if_neg (by simp)]
    rcases steady.2 with nozero | known
    · have ⟨consistent', same, low, high, grows⟩ :=
        assignSVIDs_consistent remote pairs pool nodup nozero consistent
      exact ⟨consistent', same, low, high, grows, grows _ (default empty)⟩
    · simp only [assignSVIDs_known remote known]
      exact ⟨consistent, trivial, trivial, trivial, fun _ => id, default empty⟩

end Assign

section Steps

variable {bigendian : Bool} {data next : TagCdcpRunningData}

/-- Nothing that is assigned, and nothing that it is assigned from, changes. -/
theorem Settled.congr (settled : Settled data)
    (admin : next.ucAdminRole = data.ucAdminRole) (oper : next.ucOperRole = data.ucOperRole)
    (pool : next.tLocalSVIDPool = data.tLocalSVIDPool)
    (last : next.tLastSVIDPool = data.tLastSVIDPool)
    (pairs : next.lstOperSVIDList = data.lstOperSVIDList) : Settled next := by
  refine ⟨⟨?_, ?_, ?_, ?_, ?_, ?_⟩, ?_, ?_, ?_, ?_, ?_, ?_⟩
  · rw [pairs]
    exact settled.scids
  · rw [pairs]
    exact settled.distinct
  · rw [pairs]
    exact settled.nonzero
  · rw [pairs, pool]
    exact settled.pooled
  · rw [pairs, pool]
    exact settled.marked
  · rw [pairs, last]
    exact settled.copied
  · rw [admin, settled.adminRole]
  · rw [oper, settled.operRole]
  · rw [pool]
    exact settled.ranged
  · rw [last]
    exact settled.rangedLast
  · rw [pairs, pool, last]
    exact settled.default
  · rw [Plain, pool, last, pairs]
    exact settled.fresh

/-- Without other channels no VLAN is in use. -/
theorem Plain.unmarked (plain : Plain data) (settled : Settled data) {id : UInt16}
    (mem : id ∈ ids data.tLocalSVIDPool.tVlanPoolHead ∨
      id ∈ ids data.tLastSVIDPool.tVlanPoolHead) : ¬ svids data.lstOperSVIDList id := by
  intro used
  obtain ⟨pair, there, rfl⟩ := List.mem_map.mp used
  have ⟨_, local_, last⟩ := settled.default (List.ne_nil_of_mem there)
  rw [plain pair there] at mem
  rcases mem with mem | mem
  · exact local_ mem
  · exact last mem

theorem settled_clear (settled : Settled data) (plain : Plain data) :
    Settled (clearCdcpRunningData data) := by
  have cleared : clearCdcpRunningData data = { data with
      lstLastRemoteSVIDList := [], lstRemoteSVIDList := [], lstOperSVIDList := [],
      tLastSVIDPool := ⟨[], 0, 0⟩, wOperChnCap := 0, ucOperRole := .b,
      bRemoteSCompEnable := false, ucRemoteRole := .b, wRemoteChnCap := 0,
      ucSchState := .notRunning, pRxTlv := none } := by
    rw [clearCdcpRunningData]
    simp only [settled.adminRole]
    rfl
  rw [cleared]
  refine ⟨⟨List.nodup_nil, List.nodup_nil, nofun, nofun, ?_, nofun⟩, settled.adminRole, rfl,
    settled.ranged, rfl, fun some => absurd rfl some, fun _ => nofun⟩
  refine settled.marked.congr fun id mem => ?_
  exact iff_of_false (plain.unmarked settled (.inl mem)) (by simp [svids])

theorem settled_pool (settled : Settled data) {wMinVID wMaxVID : UInt16}
    (steady : Steady data (.pool wMinVID wMaxVID)) :
    Settled { data with
      tLocalSVIDPool := setVlanPool data.tLocalSVIDPool wMinVID wMaxVID } := by
  by_cases same : wMinVID = data.tLocalSVIDPool.wMinVlanID ∧
      wMaxVID = data.tLocalSVIDPool.wMaxVlanID
  · rw [setVlanPool, if_pos same]
    exact settled
  obtain ⟨plain, apart⟩ := steady.resolve_left same
  rw [setVlanPool_eq same]
  have none : ∀ id ∈ ids (vlanRange wMinVID wMaxVID), ¬ svids data.lstOperSVIDList id := by
    intro id mem used
    obtain ⟨pair, there, rfl⟩ := List.mem_map.mp used
    rw [plain pair there] at mem
    rcases apart with empty | apart
    · rw [empty] at there
      cases there
    · exact apart mem
  refine ⟨⟨settled.scids, settled.distinct, settled.nonzero, ?_, ?_, settled.copied⟩,
    settled.adminRole, settled.operRole, rfl, settled.rangedLast, ?_, fun _ => plain⟩
  · exact fun pair mem => .inl (plain pair mem)
  · exact vlanRange_marked wMinVID wMaxVID none
  · intro some
    obtain ⟨mem, _, last⟩ := settled.default some
    exact ⟨mem, apart.resolve_left some, last⟩

/-- The copy of the pool that the assignment works on. -/
theorem copied_pool (settled : Settled data) (pool : TagCdcpVlanPool)
    (eq : pool = if (!compareVlanPool data.tLastSVIDPool data.tLocalSVIDPool) = true then
      copyVlanPool data.tLocalSVIDPool data.tLastSVIDPool else data.tLastSVIDPool) :
    Ranged pool ∧ pool.wMinVlanID = data.tLocalSVIDPool.wMinVlanID ∧
      pool.wMaxVlanID = data.tLocalSVIDPool.wMaxVlanID ∧
      ids pool.tVlanPoolHead = ids data.tLocalSVIDPool.tVlanPoolHead ∧
      Marked pool.tVlanPoolHead (svids data.lstOperSVIDList) := by
  cases same : compareVlanPool data.tLastSVIDPool data.tLocalSVIDPool
  · rw [same, Bool.not_false, if_pos rfl, copyVlanPool_eq] at eq
    subst eq
    refine ⟨rfl, rfl, rfl, settled.ranged.symm, vlanRange_marked _ _ fun id mem => ?_⟩
    have inside : id ∈ ids data.tLocalSVIDPool.tVlanPoolHead := settled.ranged ▸ mem
    exact (settled.fresh same).unmarked settled (.inl inside)
  · rw [same, Bool.not_true, if_neg Bool.false_ne_true] at eq
    subst eq
    have ⟨high, low⟩ := compareVlanPool_iff.mp same
    refine ⟨settled.rangedLast, low, high, ?_, settled.copied⟩
    rw [settled.rangedLast, settled.ranged, low, high]

/-- The marks of a copy, put over those of the pool that has the same VLANs. -/
theorem marked_over {pool : TagCdcpVlanPool} {pairs pairs' : List TagCdcpScidSvidPair}
    {last : List TagVlanInfo}
    (marked : Marked pool.tVlanPoolHead
      (fun id => (∃ vlan ∈ last, vlan.ucIsUse = true ∧ vlan.wVlanID = id) ∨ svids pairs id))
    (same : ids last = ids pool.tVlanPoolHead) (used : Marked last (svids pairs'))
    (grows : ∀ pair ∈ pairs, pair ∈ pairs') : Marked pool.tVlanPoolHead (svids pairs') := by
  refine marked.congr fun id mem => ?_
  constructor
  · rintro (⟨vlan, there, set, rfl⟩ | old)
    · exact (used vlan there).mp set
    · obtain ⟨pair, there, rfl⟩ := List.mem_map.mp old
      exact List.mem_map_of_mem (grows pair there)
  · intro new
    rw [← same] at mem
    obtain ⟨vlan, there, rfl⟩ := List.mem_map.mp mem
    exact .inl ⟨vlan, there, (used vlan there).mpr new, rfl⟩

theorem settled_txSVIDs (settled : Settled data)
    (steady : compareVlanPool data.tLastSVIDPool data.tLocalSVIDPool = false ∨
        compareScidSvidList data.lstLastRemoteSVIDList data.lstRemoteSVIDList = false →
      if data.lstOperSVIDList = [] then 1 ∉ ids data.tLocalSVIDPool.tVlanPoolHead
      else
        (∀ pair ∈ data.lstOperSVIDList,
          pair = ⟨1, 1⟩ ∨ isInScidSvidList pair data.lstRemoteSVIDList = true) ∧
        (0 ∉ ids data.tLocalSVIDPool.tVlanPoolHead ∨
          ∀ pair ∈ data.lstRemoteSVIDList,
            isInScidSvidList pair data.lstOperSVIDList = true)) :
    Settled (txSVIDs data) := by
  rw [txSVIDs]
  dsimp only
  split
  · next changed =>
    have changes := steady (by simpa using changed)
    generalize eq : (if (!compareVlanPool data.tLastSVIDPool data.tLocalSVIDPool) = true then
      copyVlanPool data.tLocalSVIDPool data.tLastSVIDPool else data.tLastSVIDPool) = pool
    have ⟨ranged, low, high, same, marked⟩ := copied_pool settled pool eq.symm
    have localNodup : (ids data.tLocalSVIDPool.tVlanPoolHead).Nodup :=
      settled.ranged ▸ nodup_vlanRange _ _
    have consistent : Consistent data.lstOperSVIDList pool :=
      ⟨settled.scids, settled.distinct, settled.nonzero, same ▸ settled.pooled, marked⟩
    rw [← same] at changes
    have noOne : 1 ∉ ids pool.tVlanPoolHead := by
      by_cases empty : data.lstOperSVIDList = []
      · rw [if_pos empty] at changes
        exact changes
      · rw [same]
        exact (settled.default empty).2.1
    have ⟨consistent', same', low', high', grows, default⟩ :=
      txSVIDConfig_consistent (same ▸ localNodup) consistent
        (fun some => (settled.default some).1) changes
    generalize txSVIDConfig pool data.lstRemoteSVIDList data.lstOperSVIDList = done at *
    have ⟨same'', low'', high''⟩ := foldl_range done.2.tVlanPoolHead data.tLocalSVIDPool
    have marked' :=
      foldl_marked done.2.tVlanPoolHead data.tLocalSVIDPool _ localNodup settled.marked
    have eqRange := compareVlanPool_iff.mpr ⟨high'.trans (high.trans high''.symm),
      low'.trans (low.trans low''.symm)⟩
    have sameIds := (same'.trans same).trans same''.symm
    refine ⟨⟨consistent'.scids, consistent'.distinct, consistent'.nonzero, ?_, ?_,
      consistent'.marked⟩, settled.adminRole, settled.operRole, ?_, ?_, ?_, ?_⟩
    · rw [← sameIds]
      exact consistent'.pooled
    · exact marked_over marked' sameIds consistent'.marked grows
    · rw [Ranged, same'', low'', high'']
      exact settled.ranged
    · rw [Ranged, same', low', high']
      exact ranged
    · intro _
      refine ⟨default, ?_, ?_⟩
      · rw [same'', ← same]
        exact noOne
      · rw [same']
        exact noOne
    · intro differs
      rw [eqRange] at differs
      cases differs
  · exact settled

theorem settled_run (settled : Settled data) (steady : RunSteady data) :
    Settled (runCdcpSM data) := by
  have capped : Settled { data with wOperChnCap := data.wAdminChnCap } :=
    settled.congr rfl rfl rfl rfl rfl
  have same : ¬ data.ucOperRole ≠ data.ucAdminRole := by
    rw [settled.operRole, settled.adminRole]
    simp
  rw [runCdcpSM, settled.adminRole]
  dsimp only
  rw [runBridge]
  rw [RunSteady] at steady
  by_cases role : data.ucRemoteRole = .s
  · -- The copy of the pool and the list are brought up to date.
    rw [if_neg (fun both => both.2 role)] at steady
    have done : Settled (txSVIDs { data with wOperChnCap := data.wAdminChnCap }) := by
      refine settled_txSVIDs capped fun changed => ?_
      rw [if_pos ⟨role, changed⟩] at steady
      exact steady
    split
    · rw [if_neg same]
      dsimp only
      rw [if_pos role]
      exact done
    · rw [if_neg (not_or.mpr ⟨same, not_not.mpr role⟩)]
      exact done
  · split
    · rw [if_neg same]
      dsimp only
      rw [if_neg role]
      exact capped
    · next state =>
      rw [if_pos ⟨state, role⟩] at steady
      rw [if_pos (.inr role)]
      exact settled_clear settled steady

theorem unpack_same {tlv : UnpackedTlv} {done : Unpacked}
    (result : unpackCdcpTlv bigendian tlv data = some done) :
    done.data.ucAdminRole = data.ucAdminRole ∧ done.data.ucOperRole = data.ucOperRole ∧
      done.data.tLocalSVIDPool = data.tLocalSVIDPool ∧
      done.data.tLastSVIDPool = data.tLastSVIDPool ∧
      done.data.lstOperSVIDList = data.lstOperSVIDList := by
  rw [unpackCdcpTlv] at result
  split at result
  · split at result
    · cases result
      exact ⟨rfl, rfl, rfl, rfl, rfl⟩
    split at result
    · dsimp only at result
      split at result
      · cases result
        exact ⟨rfl, rfl, rfl, rfl, rfl⟩
      split at result
      · cases result
        exact ⟨rfl, rfl, rfl, rfl, rfl⟩
      obtain ⟨pairs, _, rfl⟩ := Option.map_eq_some_iff.mp result
      exact ⟨rfl, rfl, rfl, rfl, rfl⟩
    · cases result
  · cases result

theorem settled_rchange (settled : Settled data) {enabled : Bool} {tlv : UnpackedTlv}
    (steady : tlv.type = 0 → data.pRxTlv.isSome = true → RunSteady data)
    (taken : cdcpRChange bigendian enabled tlv data = some next) : Settled next := by
  rw [cdcpRChange] at taken
  split at taken
  · cases taken
    exact settled.congr rfl rfl rfl rfl rfl
  split at taken
  · next last =>
    split at taken
    · next there =>
      cases taken
      exact (settled_run settled (steady last there)).congr rfl rfl rfl rfl rfl
    · cases taken
      exact settled
  split at taken
  · split at taken
    · cases taken
      exact settled.congr rfl rfl rfl rfl rfl
    split at taken
    · cases taken
      exact settled
    split at taken
    · cases taken
      exact settled
    obtain ⟨done, result, rfl⟩ := Option.map_eq_some_iff.mp taken
    have ⟨admin, oper, pool, last, pairs⟩ := unpack_same result
    split
    · exact settled.congr admin oper pool last pairs
    · exact settled.congr admin oper pool last pairs
  · cases taken
    exact settled

end Steps

section Runs

variable {bigendian : Bool} {data : TagCdcpRunningData}

theorem settled_start : Settled (initCdcpRunningData .b) :=
  ⟨⟨List.nodup_nil, List.nodup_nil, nofun, nofun, nofun, nofun⟩, rfl, rfl, rfl, rfl,
    fun some => absurd rfl some, fun _ => nofun⟩

/-- As long as no channel is taken away, and no pool replaced under one, the S-VIDs of a bridge are
distinct VLANs of the pool, and those in use are the marked ones. -/
theorem inStep_of_steady {labels : List BridgeCall}
    (run : Run (Guarded Steady (BridgeStep bigendian)) (initCdcpRunningData .b) labels data) :
    InStep data := by
  have settled : Settled data := by
    refine run.invariant settled_start ?_
    intro last label next kept taken
    obtain ⟨steady, step⟩ := taken
    cases label with
    | rchange enabled tlv => exact settled_rchange kept steady step
    | run =>
        obtain rfl := Option.some.inj step
        exact settled_run kept steady
    | pool wMinVID wMaxVID =>
        obtain rfl := Option.some.inj step
        exact settled_pool kept steady
    | chnCap wAdminChnCap =>
        obtain rfl := Option.some.inj step
        exact kept.congr rfl rfl rfl rfl rfl
    | ifDown =>
        obtain rfl := Option.some.inj step
        exact settled_clear kept steady
  exact settled.toInStep

end Runs

section Examples

def bridgeNext (data : TagCdcpRunningData) (label : BridgeCall) : TagCdcpRunningData :=
  (bridgeCall true data label).getD data

theorem bridge_next {label : BridgeCall} (data : TagCdcpRunningData)
    (defined : (bridgeCall true data label).isSome = true) :
    BridgeStep true data label (bridgeNext data label) := by
  have ⟨next, called⟩ := Option.isSome_iff_exists.mp defined
  rw [BridgeStep, bridgeNext, called]
  rfl

/-- The TLV of a station that has these channels. -/
def exampleReceive (pairs : List TagCdcpScidSvidPair) : BridgeCall :=
  .rchange true ((unpackTlv (exampleTlv pairs)).getD ⟨0, 0, []⟩)

/-- Two channels get the first two VLANs of the pool. -/
theorem assigned_from_pool :
    let data := [.pool 2 12, exampleReceive [⟨1, 1⟩], .run,
      exampleReceive [⟨1, 1⟩, ⟨2, 0⟩, ⟨3, 0⟩], .run].foldl bridgeNext (initCdcpRunningData .b)
    data.lstOperSVIDList = [⟨1, 1⟩, ⟨2, 2⟩, ⟨3, 3⟩] ∧ InStep data := by
  intro data
  have run : Run (Guarded Steady (BridgeStep true)) (initCdcpRunningData .b)
      [.pool 2 12, exampleReceive [⟨1, 1⟩], .run, exampleReceive [⟨1, 1⟩, ⟨2, 0⟩, ⟨3, 0⟩], .run]
      data :=
    ((((Run.refl.snoc ⟨by decide, bridge_next _ (by decide)⟩).snoc
      ⟨by decide, bridge_next _ (by decide)⟩).snoc
        ⟨by decide, bridge_next _ (by decide)⟩).snoc
          ⟨by decide, bridge_next _ (by decide)⟩).snoc
            ⟨by decide, bridge_next _ (by decide)⟩
  exact ⟨by decide, inStep_of_steady run⟩

/-- The VLAN of a channel that is taken away stays marked. -/
theorem marked_after_removal :
    ¬ ∀ bigendian labels data, Run (BridgeStep bigendian) (initCdcpRunningData .b) labels data →
      InStep data := by
  intro all
  let labels := [.pool 2 12, exampleReceive [⟨1, 1⟩], .run, exampleReceive [⟨1, 1⟩, ⟨2, 0⟩],
    .run, exampleReceive [⟨1, 1⟩], .run]
  let data := labels.foldl bridgeNext (initCdcpRunningData .b)
  have run : Run (BridgeStep true) (initCdcpRunningData .b) labels data :=
    ((((((Run.refl.snoc (bridge_next _ (by decide))).snoc
      (bridge_next _ (by decide))).snoc (bridge_next _ (by decide))).snoc
        (bridge_next _ (by decide))).snoc (bridge_next _ (by decide))).snoc
          (bridge_next _ (by decide))).snoc (bridge_next _ (by decide))
  have marked := (all true _ _ run).marked ⟨2, true⟩ (by decide)
  have used : (2 : UInt16) ∈ data.lstOperSVIDList.map (·.wSvid) := marked.mp rfl
  revert used
  decide

end Examples

end Tecs.Cdcp
