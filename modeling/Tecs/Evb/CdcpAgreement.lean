import Tecs.Evb.CdcpExchange
import Tecs.Library.Run

set_option autoImplicit false

/-! When a station and a bridge agree on the S-VIDs. -/

namespace Tecs.Cdcp

open Transition

section Station

/-- The station asks for what it wants, and its channels have the S-VIDs of the last list. -/
structure StationOk (data : TagCdcpRunningData) : Prop where
  adminRole : data.ucAdminRole = .s
  operRole : data.ucOperRole = .s
  wantsNodup : (scids data.lstAdminSVIDWants).Nodup
  wantsShape : ∀ pair ∈ data.lstAdminSVIDWants, pair = wantPair pair.wScid
  operNodup : (scids data.lstOperSVIDList).Nodup
  channels : ∀ scid, scid ∈ scids data.lstOperSVIDList ↔ scid ∈ scids data.lstAdminSVIDWants
  capDone : data.wOperChnCap = data.wAdminChnCap
  lastWantsNodup : (scids data.lstLastSVIDWants).Nodup
  wantsDone : compareScidSvidList data.lstAdminSVIDWants data.lstLastSVIDWants = true
  running : data.ucSchState = .running → data.ucRemoteRole = .b
  lastNodup : (scids data.lstLastRemoteSVIDList).Nodup
  listDone : data.ucRemoteRole = .b →
    compareScidSvidList data.lstLastRemoteSVIDList data.lstRemoteSVIDList = true
  given : data.lstLastRemoteSVIDList ≠ [] → svidOf 1 data.lstLastRemoteSVIDList = 1 ∧
    ∀ pair ∈ data.lstOperSVIDList,
      pair.wSvid = svidOf pair.wScid data.lstLastRemoteSVIDList

variable {data : TagCdcpRunningData}

theorem compare_self {list : List TagCdcpScidSvidPair} (nodup : (scids list).Nodup) :
    compareScidSvidList list list = true :=
  (compare_iff nodup nodup).mpr fun _ => .rfl

theorem channelRequest_done (cap : data.wOperChnCap = data.wAdminChnCap)
    (wants : compareScidSvidList data.lstAdminSVIDWants data.lstLastSVIDWants = true) :
    channelRequest data = data := by
  rw [channelRequest, if_neg]
  simp [cap, wants]

theorem rxSVIDs_done
    (same : compareScidSvidList data.lstLastRemoteSVIDList data.lstRemoteSVIDList = true) :
    rxSVIDs data = data := by
  rw [rxSVIDs, if_neg]
  simp [same]

/-- Requests change neither the roles nor the lists of the bridge. -/
theorem channelRequest_frame (data : TagCdcpRunningData) :
    (channelRequest data).ucAdminRole = data.ucAdminRole ∧
      (channelRequest data).ucOperRole = data.ucOperRole ∧
      (channelRequest data).ucRemoteRole = data.ucRemoteRole ∧
      (channelRequest data).ucSchState = data.ucSchState ∧
      (channelRequest data).lstRemoteSVIDList = data.lstRemoteSVIDList ∧
      (channelRequest data).lstLastRemoteSVIDList = data.lstLastRemoteSVIDList ∧
      (channelRequest data).lstAdminSVIDWants = data.lstAdminSVIDWants := by
  rw [channelRequest]
  split
  · exact ⟨rfl, rfl, rfl, rfl, rfl, rfl, rfl⟩
  · exact ⟨rfl, rfl, rfl, rfl, rfl, rfl, rfl⟩

theorem runStation_eq (admin : data.ucAdminRole = .s) (oper : data.ucOperRole = .s)
    (running : data.ucSchState = .running → data.ucRemoteRole = .b) :
    runCdcpSM data = if data.ucRemoteRole = .b then rxSVIDs (channelRequest data)
      else channelRequest data := by
  have same : ¬ data.ucOperRole ≠ data.ucAdminRole := by
    rw [oper, admin]
    simp
  have ⟨_, _, role, _⟩ := channelRequest_frame data
  rw [runCdcpSM, admin]
  dsimp only
  rw [runStation]
  cases state : data.ucSchState
  · dsimp only
    rw [if_neg same, role]
  · have remote := running state
    dsimp only
    rw [if_neg (not_or.mpr ⟨same, not_not.mpr remote⟩), if_pos remote]

/-- A request that changes something. -/
theorem request_given {wants : List TagCdcpScidSvidPair} (ok : StationOk data)
    (shape : ∀ pair ∈ wants, pair = wantPair pair.wScid)
    (fresh : ∀ scid ∈ scids wants, scid ∉ scids data.lstOperSVIDList →
      scid ∉ scids data.lstLastRemoteSVIDList ∨ (data.lstOperSVIDList = [] ∧ scid = 1))
    {result : List TagCdcpScidSvidPair}
    (requested : Requested wants data.lstOperSVIDList result)
    (some : data.lstLastRemoteSVIDList ≠ []) :
    ∀ pair ∈ result, pair.wSvid = svidOf pair.wScid data.lstLastRemoteSVIDList := by
  intro pair mem
  have ⟨first, given⟩ := ok.given some
  have wanted := (requested.channels pair.wScid).mp (List.mem_map_of_mem mem)
  rcases requested.origin pair mem with old | ⟨more, new, zero⟩ | ⟨empty, want⟩
  · exact given pair old
  · have absent := (fresh pair.wScid wanted new).resolve_right fun both => more both.1
    rw [svidOf_of_not_mem absent, zero]
  · have absent : pair.wScid ∉ scids data.lstOperSVIDList := by simp [empty]
    rw [shape pair want, wantPair]
    split
    · next one => rw [first]
    · next other =>
      have missing := (fresh pair.wScid wanted absent).resolve_right fun both => other both.2
      rw [svidOf_of_not_mem missing]

theorem stationConfig_ok (ok : StationOk data) {wants : List UInt16} (nodup : wants.Nodup)
    (wAdminChnCap : UInt16)
    (fresh : ∀ scid ∈ wants, scid ∉ scids data.lstOperSVIDList →
      scid ∉ scids data.lstLastRemoteSVIDList ∨ (data.lstOperSVIDList = [] ∧ scid = 1)) :
    StationOk (runCdcpSM { data with
      lstAdminSVIDWants := wants.map wantPair, wAdminChnCap }) := by
  have scid_want (scid : UInt16) : (wantPair scid).wScid = scid := by
    rw [wantPair]
    split
    · next one => exact one.symm
    · rfl
  have channels : scids (wants.map wantPair) = wants := by
    rw [scids, List.map_map]
    exact List.map_id'' scid_want wants
  have shape : ∀ pair ∈ wants.map wantPair, pair = wantPair pair.wScid := by
    intro pair mem
    obtain ⟨scid, _, rfl⟩ := List.mem_map.mp mem
    rw [scid_want]
  have wantsNodup : (scids (wants.map wantPair)).Nodup := channels.symm ▸ nodup
  rw [runStation_eq (by exact ok.adminRole) (by exact ok.operRole) (by exact ok.running)]
  have requested : StationOk (channelRequest { data with
      lstAdminSVIDWants := wants.map wantPair, wAdminChnCap }) := by
    rw [channelRequest]
    split
    · have spec := setSVIDRequest_spec wantsNodup ok.operNodup
      have given := request_given ok shape (channels.symm ▸ fresh) spec
      rw [← ok.operRole] at spec given
      exact {
        adminRole := ok.adminRole
        operRole := ok.operRole
        wantsNodup := wantsNodup
        wantsShape := shape
        operNodup := spec.nodup
        channels := spec.channels
        capDone := rfl
        lastWantsNodup := wantsNodup
        wantsDone := compare_self wantsNodup
        running := ok.running
        lastNodup := ok.lastNodup
        listDone := ok.listDone
        given := fun some => ⟨(ok.given some).1, given some⟩ }
    · next unchanged =>
      obtain ⟨cap, compared⟩ := not_or.mp unchanged
      have same : compareScidSvidList (wants.map wantPair) data.lstLastSVIDWants = true := by
        simpa using compared
      have old := (compare_iff ok.wantsNodup ok.lastWantsNodup).mp ok.wantsDone
      have new := (compare_iff wantsNodup ok.lastWantsNodup).mp same
      exact {
        adminRole := ok.adminRole
        operRole := ok.operRole
        wantsNodup := wantsNodup
        wantsShape := shape
        operNodup := ok.operNodup
        channels := fun scid => (ok.channels scid).trans ((old scid).trans (new scid).symm)
        capDone := not_not.mp cap
        lastWantsNodup := ok.lastWantsNodup
        wantsDone := same
        running := ok.running
        lastNodup := ok.lastNodup
        listDone := ok.listDone
        given := ok.given }
  split
  · next role =>
    rw [rxSVIDs_done (requested.listDone ?_)]
    · exact requested
    · exact (channelRequest_frame _).2.2.1.trans role
  · exact requested

/-- A list of the bridge is taken over, if it was not yet. -/
theorem stationReceive_ok (ok : StationOk data) {pairs : List TagCdcpScidSvidPair}
    (rx : UnpackedTlv) (sComp : Bool) (chnCap : UInt16) (nodup : (scids pairs).Nodup)
    (some : pairs ≠ []) (first : svidOf 1 pairs = 1)
    (same : compareScidSvidList data.lstLastRemoteSVIDList pairs = true →
      ∀ pair ∈ data.lstOperSVIDList,
        svidOf pair.wScid pairs = svidOf pair.wScid data.lstLastRemoteSVIDList) :
    let next := { runCdcpSM { data with
      pRxTlv := rx, ucRemoteRole := .b, bRemoteSCompEnable := sComp, wRemoteChnCap := chnCap,
      lstRemoteSVIDList := pairs } with pRxTlv := none }
    StationOk next ∧ next.lstAdminSVIDWants = data.lstAdminSVIDWants ∧
      ∀ pair ∈ next.lstOperSVIDList, pair.wSvid = svidOf pair.wScid pairs := by
  intro next
  have run : next = { rxSVIDs { data with
      pRxTlv := rx, ucRemoteRole := .b, bRemoteSCompEnable := sComp, wRemoteChnCap := chnCap,
      lstRemoteSVIDList := pairs } with pRxTlv := none } := by
    change { runCdcpSM _ with pRxTlv := none } = _
    rw [runStation_eq (by exact ok.adminRole) (by exact ok.operRole) (fun _ => rfl), if_pos rfl,
      channelRequest_done (by exact ok.capDone) (by exact ok.wantsDone)]
  rw [run, rxSVIDs]
  clear run next
  split
  · -- The list is taken over.
    dsimp only
    rw [rxSVIDConfig_eq]
    generalize eq : (data.lstOperSVIDList.map fun elm =>
      (⟨elm.wScid, svidOf elm.wScid pairs⟩ : TagCdcpScidSvidPair)) = result
    have channels : scids result = scids data.lstOperSVIDList := by
      rw [← eq, scids, List.map_map]
      rfl
    have given : ∀ pair ∈ result, pair.wSvid = svidOf pair.wScid pairs := by
      intro pair mem
      rw [← eq] at mem
      obtain ⟨old, _, rfl⟩ := List.mem_map.mp mem
      rfl
    refine ⟨?_, rfl, given⟩
    exact {
      adminRole := ok.adminRole
      operRole := ok.operRole
      wantsNodup := ok.wantsNodup
      wantsShape := ok.wantsShape
      operNodup := channels.symm ▸ ok.operNodup
      channels := channels.symm ▸ ok.channels
      capDone := ok.capDone
      lastWantsNodup := ok.lastWantsNodup
      wantsDone := ok.wantsDone
      running := fun _ => rfl
      lastNodup := nodup
      listDone := fun _ => compare_self nodup
      given := fun _ => ⟨first, given⟩ }
  · next compared =>
    have equal : compareScidSvidList data.lstLastRemoteSVIDList pairs = true := by
      simpa using compared
    have last : data.lstLastRemoteSVIDList ≠ [] := by
      intro empty
      rw [empty] at equal
      have long : pairs.length = 0 := by
        rw [compareScidSvidList, Bool.and_eq_true] at equal
        exact (of_decide_eq_true equal.1).symm
      exact some (List.length_eq_zero_iff.mp long)
    have given := (ok.given last).2
    refine ⟨?_, rfl, fun pair mem => (given pair mem).trans (same equal pair mem).symm⟩
    exact {
      adminRole := ok.adminRole
      operRole := ok.operRole
      wantsNodup := ok.wantsNodup
      wantsShape := ok.wantsShape
      operNodup := ok.operNodup
      channels := ok.channels
      capDone := ok.capDone
      lastWantsNodup := ok.lastWantsNodup
      wantsDone := ok.wantsDone
      running := fun _ => rfl
      lastNodup := ok.lastNodup
      listDone := fun _ => equal
      given := ok.given }

end Station

section Bridge

/-- What assigning S-VIDs makes of a list and a pool. -/
structure Assigned (remote pairs : List TagCdcpScidSvidPair) (pool : TagCdcpVlanPool)
    (done : List TagCdcpScidSvidPair × TagCdcpVlanPool) : Prop where
  nodup : (scids done.1).Nodup
  nonzero : ∀ pair ∈ done.1, pair.wSvid ≠ 0
  grows : ∀ pair ∈ pairs, pair ∈ done.1
  ids : ids done.2.tVlanPoolHead = ids pool.tVlanPoolHead
  min : done.2.wMinVlanID = pool.wMinVlanID
  max : done.2.wMaxVlanID = pool.wMaxVlanID
  all : ∀ pair ∈ remote, pair.wScid = 1 ∨ pair.wScid ∈ scids done.1 ∨ Full done.2

theorem assignSVIDs_all (remote : List TagCdcpScidSvidPair) : ∀ pairs pool,
    0 ∉ ids pool.tVlanPoolHead → (scids pairs).Nodup → (∀ pair ∈ pairs, pair.wSvid ≠ 0) →
    Assigned remote pairs pool (assignSVIDs remote pairs pool) := by
  induction remote with
  | nil =>
      intro pairs pool _ nodup nonzero
      exact ⟨nodup, nonzero, fun _ => id, rfl, rfl, rfl, nofun⟩
  | cons elm rest ih =>
      intro pairs pool noZero nodup nonzero
      rw [assignSVIDs]
      split
      · next known =>
        have done := ih pairs pool noZero nodup nonzero
        refine { done with all := List.forall_mem_cons.mpr ⟨.inr (.inl ?_), done.all⟩ }
        have ⟨pair, mem, same⟩ := List.mem_map.mp (isIn_iff.mp known)
        exact List.mem_map.mpr ⟨pair, done.grows pair mem, same⟩
      next unknown =>
      split
      · next one =>
        have done := ih pairs pool noZero nodup nonzero
        exact { done with all := List.forall_mem_cons.mpr ⟨.inl one.symm, done.all⟩ }
      rcases alloc_or_full pool.tVlanPoolHead with inside | ⟨none, full⟩
      · have given : (allocSVID pool).1 ≠ 0 := fun zero => noZero (zero ▸ inside)
        have same : Cdcp.ids (allocSVID pool).2.tVlanPoolHead = Cdcp.ids pool.tVlanPoolHead :=
          ids_allocFirst pool.tVlanPoolHead
        have perm := (insert_perm ⟨elm.wScid, (allocSVID pool).1⟩ pairs).map
          TagCdcpScidSvidPair.wScid
        have absent : elm.wScid ∉ scids pairs := fun there => unknown (isIn_iff.mpr there)
        have done := ih (insertElmByScidAscendingOrder ⟨elm.wScid, (allocSVID pool).1⟩ pairs)
          (allocSVID pool).2 (same.symm ▸ noZero)
          (perm.nodup_iff.mpr (List.nodup_cons.mpr ⟨absent, nodup⟩)) (by
            intro pair mem
            rcases mem_insert.mp mem with rfl | old
            · exact given
            · exact nonzero pair old)
        simp only [if_neg (Ne.symm given)]
        refine { done with
          grows := fun pair old => done.grows pair (mem_insert.mpr (.inr old))
          ids := done.ids.trans same
          min := done.min
          max := done.max
          all := List.forall_mem_cons.mpr ⟨.inr (.inl ?_), done.all⟩ }
        exact List.mem_map.mpr ⟨_, done.grows _ (mem_insert.mpr (.inl rfl)), rfl⟩
      · have nothing : allocSVID pool = (0, pool) := by
          rw [allocSVID, none]
        simp only [nothing, if_true]
        exact ⟨nodup, nonzero, fun _ => id, rfl, rfl, rfl, fun _ _ => .inr (.inr full)⟩

/-- The bridge is up to date with the last list, as far as its pool goes. -/
structure BridgeOk (data : TagCdcpRunningData) : Prop where
  adminRole : data.ucAdminRole = .b
  operRole : data.ucOperRole = .b
  operNodup : (scids data.lstOperSVIDList).Nodup
  nonzero : ∀ pair ∈ data.lstOperSVIDList, pair.wSvid ≠ 0
  default : data.lstOperSVIDList ≠ [] → ⟨1, 1⟩ ∈ data.lstOperSVIDList
  empty : data.lstOperSVIDList = [] → data.lstLastRemoteSVIDList = []
  running : data.ucSchState = .running → data.ucRemoteRole = .s
  remoteNodup : (scids data.lstRemoteSVIDList).Nodup
  lastNodup : (scids data.lstLastRemoteSVIDList).Nodup
  ranged : Ranged data.tLocalSVIDPool
  rangedLast : Ranged data.tLastSVIDPool
  noZero : 0 ∉ ids data.tLocalSVIDPool.tVlanPoolHead
  noZeroLast : 0 ∉ ids data.tLastSVIDPool.tVlanPoolHead
  synced : data.ucRemoteRole = .s →
    compareVlanPool data.tLastSVIDPool data.tLocalSVIDPool = true ∧
      compareScidSvidList data.lstLastRemoteSVIDList data.lstRemoteSVIDList = true ∧
      data.lstOperSVIDList ≠ []
  assigned : ∀ pair ∈ data.lstLastRemoteSVIDList,
    pair.wScid ∈ scids data.lstOperSVIDList ∨ Full data.tLastSVIDPool

variable {data : TagCdcpRunningData}

theorem runBridge_eq (admin : data.ucAdminRole = .b) (oper : data.ucOperRole = .b)
    (running : data.ucSchState = .running → data.ucRemoteRole = .s) :
    runCdcpSM data = if data.ucRemoteRole = .s then
        txSVIDs { data with wOperChnCap := data.wAdminChnCap }
      else { data with wOperChnCap := data.wAdminChnCap } := by
  have same : ¬ data.ucOperRole ≠ data.ucAdminRole := by
    rw [oper, admin]
    simp
  have run : runCdcpSM data = runBridge data := by
    rw [runCdcpSM, admin]
  rw [run, runBridge]
  split
  · rw [if_neg same]
  · next state =>
    have remote := running state
    rw [if_neg (not_or.mpr ⟨same, not_not.mpr remote⟩), if_pos remote]

theorem txSVIDs_done
    (pools : compareVlanPool data.tLastSVIDPool data.tLocalSVIDPool = true)
    (lists : compareScidSvidList data.lstLastRemoteSVIDList data.lstRemoteSVIDList = true) :
    txSVIDs data = data := by
  rw [txSVIDs, pools, lists]
  rfl

/-- The copy of the pool that the S-VIDs are handed out from. -/
theorem ranged_copy (ranged : Ranged data.tLocalSVIDPool) (rangedLast : Ranged data.tLastSVIDPool)
    (pool : TagCdcpVlanPool)
    (eq : pool = if (!compareVlanPool data.tLastSVIDPool data.tLocalSVIDPool) = true then
      copyVlanPool data.tLocalSVIDPool data.tLastSVIDPool else data.tLastSVIDPool) :
    ids pool.tVlanPoolHead = ids data.tLocalSVIDPool.tVlanPoolHead ∧
      pool.wMinVlanID = data.tLocalSVIDPool.wMinVlanID ∧
      pool.wMaxVlanID = data.tLocalSVIDPool.wMaxVlanID := by
  cases same : compareVlanPool data.tLastSVIDPool data.tLocalSVIDPool
  · rw [same, Bool.not_false, if_pos rfl, copyVlanPool_eq] at eq
    subst eq
    exact ⟨ranged.symm, rfl, rfl⟩
  · rw [same, Bool.not_true, if_neg Bool.false_ne_true] at eq
    subst eq
    have ⟨high, low⟩ := compareVlanPool_iff.mp same
    refine ⟨?_, low, high⟩
    rw [rangedLast, ranged, low, high]

/-- What the configuration of the bridge leaves, if it does not stop at the default channel while
there are others to assign. -/
theorem txSVIDConfig_assigned (remote : List TagCdcpScidSvidPair)
    {pairs : List TagCdcpScidSvidPair} {pool : TagCdcpVlanPool}
    (noZero : 0 ∉ ids pool.tVlanPoolHead) (nodup : (scids pairs).Nodup)
    (nonzero : ∀ pair ∈ pairs, pair.wSvid ≠ 0) (default : pairs ≠ [] → ⟨1, 1⟩ ∈ pairs)
    (first : pairs = [] → (∀ pair ∈ remote, pair.wScid = 1) ∨ pool.tVlanPoolHead = []) :
    let done := txSVIDConfig pool remote pairs
    Assigned remote [⟨1, 1⟩] pool done := by
  rw [txSVIDConfig]
  by_cases empty : pairs = []
  · rw [if_pos (by simp [empty])]
    refine ⟨by simp, by simp, fun _ => id, rfl, rfl, rfl, fun pair mem => ?_⟩
    rcases first empty with one | none
    · exact .inl (one pair mem)
    · refine .inr (.inr ?_)
      rw [Full, none]
      exact nofun
  · have more : pairs.isEmpty = false := by simpa using empty
    rw [more, if_neg (by simp)]
    simp only [removeInactive_eq]
    generalize eq : (pairs.filter fun elm => (1 = elm.wScid ∧ 1 = elm.wSvid) ∨
      isInScidSvidList elm remote = true) = kept
    have sublist : kept.Sublist pairs := eq ▸ List.filter_sublist
    have stays : ⟨1, 1⟩ ∈ kept := by
      rw [← eq, List.mem_filter]
      exact ⟨default empty, by simp⟩
    have done := assignSVIDs_all remote kept pool noZero (nodup.sublist (sublist.map _))
      fun pair mem => nonzero pair (sublist.subset mem)
    refine { done with grows := fun pair mem => ?_ }
    obtain rfl := List.mem_singleton.mp mem
    exact done.grows _ stays

/-- The last lists and the copy of the pool are brought up to date. -/
theorem txSVIDs_ok (admin : data.ucAdminRole = .b) (oper : data.ucOperRole = .b)
    (remote : data.ucRemoteRole = .s) (operNodup : (scids data.lstOperSVIDList).Nodup)
    (nonzero : ∀ pair ∈ data.lstOperSVIDList, pair.wSvid ≠ 0)
    (default : data.lstOperSVIDList ≠ [] → ⟨1, 1⟩ ∈ data.lstOperSVIDList)
    (remoteNodup : (scids data.lstRemoteSVIDList).Nodup)
    (lastNodup : (scids data.lstLastRemoteSVIDList).Nodup)
    (ranged : Ranged data.tLocalSVIDPool) (rangedLast : Ranged data.tLastSVIDPool)
    (noZero : 0 ∉ ids data.tLocalSVIDPool.tVlanPoolHead)
    (assigned : ∀ pair ∈ data.lstLastRemoteSVIDList,
      pair.wScid ∈ scids data.lstOperSVIDList ∨ Full data.tLastSVIDPool)
    (empty : data.lstOperSVIDList = [] → data.lstLastRemoteSVIDList = [])
    (first : data.lstOperSVIDList = [] → data.lstRemoteSVIDList ≠ [] ∧
      ((∀ pair ∈ data.lstRemoteSVIDList, pair.wScid = 1) ∨
        data.tLocalSVIDPool.tVlanPoolHead = [])) :
    BridgeOk (txSVIDs data) := by
  rw [txSVIDs]
  dsimp only
  split
  · next changed =>
    generalize eq : (if (!compareVlanPool data.tLastSVIDPool data.tLocalSVIDPool) = true then
      copyVlanPool data.tLocalSVIDPool data.tLastSVIDPool else data.tLastSVIDPool) = pool
    obtain ⟨same, low, high⟩ := ranged_copy ranged rangedLast pool eq.symm
    have spec := txSVIDConfig_assigned data.lstRemoteSVIDList
      (same.symm ▸ noZero) operNodup nonzero default (by
        intro none
        refine (first none).2.imp_right fun bare => ?_
        have long := congrArg List.length same
        simpa [ids, bare] using long)
    dsimp only at spec
    generalize txSVIDConfig pool data.lstRemoteSVIDList data.lstOperSVIDList = done at *
    obtain ⟨same', low', high'⟩ := foldl_range done.2.tVlanPoolHead data.tLocalSVIDPool
    have there : ⟨1, 1⟩ ∈ done.1 := spec.grows _ List.mem_cons_self
    have settled : ∀ scid ∈ scids data.lstRemoteSVIDList,
        scid ∈ scids done.1 ∨ Full done.2 := by
      intro scid mem
      obtain ⟨pair, inside, rfl⟩ := List.mem_map.mp mem
      rcases spec.all pair inside with one | known
      · rw [one]
        exact .inl (List.mem_map.mpr ⟨_, there, rfl⟩)
      · exact known
    have listed : (scids (if (!compareScidSvidList data.lstLastRemoteSVIDList
          data.lstRemoteSVIDList) = true then data.lstRemoteSVIDList
        else data.lstLastRemoteSVIDList)).Nodup ∧
      compareScidSvidList (if (!compareScidSvidList data.lstLastRemoteSVIDList
          data.lstRemoteSVIDList) = true then data.lstRemoteSVIDList
        else data.lstLastRemoteSVIDList) data.lstRemoteSVIDList = true := by
      split
      · exact ⟨remoteNodup, compare_self remoteNodup⟩
      · next equal => exact ⟨lastNodup, by simpa using equal⟩
    generalize (if (!compareScidSvidList data.lstLastRemoteSVIDList
      data.lstRemoteSVIDList) = true then data.lstRemoteSVIDList
        else data.lstLastRemoteSVIDList) = last at *
    exact {
      adminRole := admin
      operRole := oper
      operNodup := spec.nodup
      nonzero := spec.nonzero
      default := fun _ => there
      empty := fun none => absurd none (List.ne_nil_of_mem there)
      running := fun _ => remote
      remoteNodup := remoteNodup
      lastNodup := listed.1
      ranged := by rw [Ranged, same', low', high', ranged]
      rangedLast := by rw [Ranged, spec.ids, spec.min, spec.max, same, low, high, ranged]
      noZero := same'.symm ▸ noZero
      noZeroLast := spec.ids.symm ▸ same.symm ▸ noZero
      synced := fun _ => ⟨compareVlanPool_iff.mpr
        ⟨(spec.max.trans high).trans high'.symm, (spec.min.trans low).trans low'.symm⟩,
        listed.2, List.ne_nil_of_mem there⟩
      assigned := fun pair mem => settled _
        (((compare_iff listed.1 remoteNodup).mp listed.2 _).mp (List.mem_map_of_mem mem)) }
  · next unchanged =>
    obtain ⟨pools, lists⟩ : compareVlanPool data.tLastSVIDPool data.tLocalSVIDPool = true ∧
        compareScidSvidList data.lstLastRemoteSVIDList data.lstRemoteSVIDList = true := by
      simpa using unchanged
    have some : data.lstOperSVIDList ≠ [] := by
      intro none
      rw [empty none] at lists
      have bare : (scids []).Nodup := List.nodup_nil
      have channels := (compare_iff bare remoteNodup).mp lists
      obtain ⟨pair, mem⟩ := List.exists_mem_of_ne_nil _ (first none).1
      exact absurd ((channels pair.wScid).mpr (List.mem_map_of_mem mem)) List.not_mem_nil
    obtain ⟨high, low⟩ := compareVlanPool_iff.mp pools
    have same : ids data.tLastSVIDPool.tVlanPoolHead = ids data.tLocalSVIDPool.tVlanPoolHead := by
      rw [rangedLast, ranged, low, high]
    exact {
      adminRole := admin
      operRole := oper
      operNodup := operNodup
      nonzero := nonzero
      default := default
      empty := empty
      running := fun _ => remote
      remoteNodup := remoteNodup
      lastNodup := lastNodup
      ranged := ranged
      rangedLast := rangedLast
      noZero := noZero
      noZeroLast := same ▸ noZero
      synced := fun _ => ⟨pools, lists, some⟩
      assigned := assigned }

theorem txSVIDs_frame (data : TagCdcpRunningData) :
    (txSVIDs data).ucRemoteRole = data.ucRemoteRole ∧
      (txSVIDs data).lstRemoteSVIDList = data.lstRemoteSVIDList := by
  rw [txSVIDs]
  dsimp only
  split
  · exact ⟨rfl, rfl⟩
  · exact ⟨rfl, rfl⟩

theorem bridgeConfig_ok (ok : BridgeOk data) {wMinVID wMaxVID : UInt16} (wAdminChnCap : UInt16)
    (noZero : 0 ∉ ids (vlanRange wMinVID wMaxVID)) :
    BridgeOk (runCdcpSM { data with
      tLocalSVIDPool := setVlanPool data.tLocalSVIDPool wMinVID wMaxVID, wAdminChnCap }) := by
  obtain ⟨ranged, bare⟩ : Ranged (setVlanPool data.tLocalSVIDPool wMinVID wMaxVID) ∧
      0 ∉ ids (setVlanPool data.tLocalSVIDPool wMinVID wMaxVID).tVlanPoolHead := by
    by_cases same : wMinVID = data.tLocalSVIDPool.wMinVlanID ∧
        wMaxVID = data.tLocalSVIDPool.wMaxVlanID
    · rw [setVlanPool, if_pos same]
      exact ⟨ok.ranged, ok.noZero⟩
    · rw [setVlanPool_eq same]
      exact ⟨rfl, noZero⟩
  rw [runBridge_eq (by exact ok.adminRole) (by exact ok.operRole) (by exact ok.running)]
  split
  · next role =>
    obtain ⟨_, _, more⟩ := ok.synced role
    exact txSVIDs_ok ok.adminRole ok.operRole role ok.operNodup ok.nonzero ok.default
      ok.remoteNodup ok.lastNodup ranged ok.rangedLast bare ok.assigned ok.empty
      fun none => absurd none more
  · next role =>
    exact { ok with
      ranged := ranged
      noZero := bare
      synced := fun is_station => absurd is_station role }

/-- A list of the station is taken over; the channels stay if it has those of the last one. -/
theorem bridgeReceive_ok (ok : BridgeOk data) {pairs : List TagCdcpScidSvidPair}
    (rx : UnpackedTlv) (sComp : Bool) (chnCap : UInt16) (nodup : (scids pairs).Nodup)
    (more : pairs ≠ []) (first : data.lstOperSVIDList = [] →
      (∀ pair ∈ pairs, pair.wScid = 1) ∨ data.tLocalSVIDPool.tVlanPoolHead = []) :
    let next := { runCdcpSM { data with
      pRxTlv := rx, ucRemoteRole := .s, bRemoteSCompEnable := sComp, wRemoteChnCap := chnCap,
      lstRemoteSVIDList := pairs } with pRxTlv := none }
    BridgeOk next ∧ next.ucRemoteRole = .s ∧ next.lstRemoteSVIDList = pairs ∧
      (data.ucRemoteRole = .s →
        compareScidSvidList data.lstLastRemoteSVIDList pairs = true →
          next.lstOperSVIDList = data.lstOperSVIDList) := by
  intro next
  have run : next = { txSVIDs { data with
      wOperChnCap := data.wAdminChnCap,
      pRxTlv := rx, ucRemoteRole := .s, bRemoteSCompEnable := sComp, wRemoteChnCap := chnCap,
      lstRemoteSVIDList := pairs } with pRxTlv := none } := by
    change { runCdcpSM _ with pRxTlv := none } = _
    rw [runBridge_eq (by exact ok.adminRole) (by exact ok.operRole) (fun _ => rfl), if_pos rfl]
  rw [run]
  clear run next
  have ⟨role, list⟩ := txSVIDs_frame { data with
    wOperChnCap := data.wAdminChnCap,
    pRxTlv := rx, ucRemoteRole := .s, bRemoteSCompEnable := sComp, wRemoteChnCap := chnCap,
    lstRemoteSVIDList := pairs }
  refine ⟨?_, role, list, fun station same => ?_⟩
  · have done : BridgeOk (txSVIDs { data with
        wOperChnCap := data.wAdminChnCap,
        pRxTlv := rx, ucRemoteRole := .s, bRemoteSCompEnable := sComp, wRemoteChnCap := chnCap,
        lstRemoteSVIDList := pairs }) :=
      txSVIDs_ok ok.adminRole ok.operRole rfl ok.operNodup ok.nonzero ok.default nodup
        ok.lastNodup ok.ranged ok.rangedLast ok.noZero ok.assigned ok.empty
        fun none => ⟨more, first none⟩
    exact { done with }
  · have ⟨pools, _, _⟩ := ok.synced station
    dsimp only
    rw [txSVIDs_done (by exact pools) (by exact same)]

end Bridge

section System

variable {bigendian : Bool}

/-- A frame that a side of a role made of its list, and that can come over. -/
structure Carried (bigendian : Bool) (role : EMCdcpRole) (frame : Frame) : Prop where
  built : ∃ maker : TagCdcpRunningData, maker.ucOperRole = role ∧
    maker.lstOperSVIDList = frame.pairs ∧ buildCdcpTlv bigendian maker = some frame.tlv
  transmissible : Transmissible frame.pairs
  nodup : (scids frame.pairs).Nodup
  more : frame.pairs ≠ []

theorem built_more {maker : TagCdcpRunningData} {tlv : PackedTlv}
    (built : buildCdcpTlv bigendian maker = some tlv) : maker.lstOperSVIDList ≠ [] := by
  intro none
  rw [buildCdcpTlv] at built
  simp [none] at built

theorem Carried.receive {role : EMCdcpRole} {frame : Frame} (carried : Carried bigendian role frame)
    (data : TagCdcpRunningData) :
    ∃ rx sComp chnCap, receiveFrame bigendian frame.tlv data = some { runCdcpSM { data with
      pRxTlv := some rx, ucRemoteRole := role, bRemoteSCompEnable := sComp,
      wRemoteChnCap := chnCap, lstRemoteSVIDList := frame.pairs } with pRxTlv := none } := by
  obtain ⟨maker, rfl, same, built⟩ := carried.built
  have transmissible := carried.transmissible
  rw [← same] at transmissible ⊢
  have ⟨rx, received⟩ := receive_built built transmissible data
  exact ⟨rx, _, _, received⟩

/-- A frame from after the last change is not overtaken by one from before, nor by one of an earlier
round. -/
def Later (frame other : Frame) : Prop :=
  ∀ n, frame.round = some n → ∃ m, other.round = some m ∧ n ≤ m

theorem le_nextRound (round : ℕ) (other : Option ℕ) : round ≤ nextRound round other := by
  cases other
  · exact Nat.le_refl _
  · exact Nat.le_max_left _ _

theorem nextRound_cases {n round : ℕ} {other : Option ℕ} (reached : n + 1 ≤ nextRound round other) :
    n + 1 ≤ round ∨ ∃ m, other = some m ∧ n ≤ m := by
  cases other with
  | none => exact .inl reached
  | some m =>
      have larger : n + 1 ≤ max round (m + 1) := reached
      by_cases old : n + 1 ≤ round
      · exact .inl old
      · exact .inr ⟨m, rfl, by omega⟩

/-- What holds between the parties, and of the frames on their way. -/
structure Sync (bigendian : Bool) (exchange : Exchange) : Prop where
  station : StationOk exchange.station
  bridge : BridgeOk exchange.bridge
  toBridge : ∀ frame ∈ exchange.toBridge, Carried bigendian .s frame
  toStation : ∀ frame ∈ exchange.toStation, Carried bigendian .b frame ∧ ⟨1, 1⟩ ∈ frame.pairs
  orderBridge : exchange.toBridge.Pairwise Later
  orderStation : exchange.toStation.Pairwise Later
  roundBridge : ∀ frame ∈ exchange.toBridge, ∀ n, frame.round = some n →
    n ≤ exchange.stationRound
  roundStation : ∀ frame ∈ exchange.toStation, ∀ n, frame.round = some n →
    n ≤ exchange.bridgeRound
  ahead : exchange.stationRound ≤ exchange.bridgeRound + 1
  wanted : ∀ frame ∈ exchange.toBridge, ∀ n, frame.round = some n → ∀ scid,
    scid ∈ scids frame.pairs ↔ scid ∈ scids exchange.station.lstAdminSVIDWants
  heard : 1 ≤ exchange.bridgeRound →
    (∀ frame ∈ exchange.toBridge, ∃ n, frame.round = some n) ∧
      exchange.bridge.ucRemoteRole = .s ∧ ∀ scid, scid ∈ scids exchange.bridge.lstRemoteSVIDList ↔
        scid ∈ scids exchange.station.lstAdminSVIDWants
  told : ∀ frame ∈ exchange.toStation, ∀ n, frame.round = some n → 1 ≤ n →
    frame.pairs = exchange.bridge.lstOperSVIDList
  settled : 2 ≤ exchange.stationRound →
    (∀ frame ∈ exchange.toStation, ∃ n, frame.round = some n ∧ 1 ≤ n) ∧
      ∀ pair ∈ exchange.station.lstOperSVIDList,
        pair.wSvid = svidOf pair.wScid exchange.bridge.lstOperSVIDList

variable {exchange next : Exchange}

theorem sync_start : Sync bigendian Exchange.start := by
  have station : StationOk (initCdcpRunningData .s) :=
    ⟨rfl, rfl, List.nodup_nil, nofun, List.nodup_nil, fun _ => .rfl, rfl, List.nodup_nil, rfl,
      nofun, List.nodup_nil, nofun, fun more => absurd rfl more⟩
  have bridge : BridgeOk (initCdcpRunningData .b) :=
    ⟨rfl, rfl, List.nodup_nil, nofun, fun more => absurd rfl more, fun _ => rfl, nofun,
      List.nodup_nil, List.nodup_nil, rfl, rfl, List.not_mem_nil, List.not_mem_nil, nofun, nofun⟩
  exact ⟨station, bridge, nofun, nofun, .nil, .nil, nofun, nofun, by decide, nofun, nofun, nofun,
    nofun⟩

/-- After a change the parties start over, with what was on its way. -/
theorem Sync.changed (sync : Sync bigendian exchange) {station bridge : TagCdcpRunningData}
    (stationOk : StationOk station) (bridgeOk : BridgeOk bridge) :
    Sync bigendian { exchange.changed with station, bridge } := by
  have carried {role : EMCdcpRole} {frame : Frame} (old : Carried bigendian role frame) :
      Carried bigendian role { frame with round := none } :=
    ⟨old.built, old.transmissible, old.nodup, old.more⟩
  have order (list : List Frame) :
      (list.map fun frame => { frame with round := none }).Pairwise Later := by
    rw [List.pairwise_map]
    exact List.pairwise_of_forall fun _ _ _ => nofun
  have none (list : List Frame) : ∀ frame ∈ list.map fun frame => { frame with round := none },
      frame.round = none := by
    intro frame mem
    obtain ⟨old, _, rfl⟩ := List.mem_map.mp mem
    rfl
  exact {
    station := stationOk
    bridge := bridgeOk
    toBridge := List.forall_mem_map.mpr fun frame mem => carried (sync.toBridge frame mem)
    toStation := List.forall_mem_map.mpr fun frame mem =>
      ⟨carried (sync.toStation frame mem).1, (sync.toStation frame mem).2⟩
    orderBridge := order _
    orderStation := order _
    roundBridge := fun frame mem n round => by simp [none _ frame mem] at round
    roundStation := fun frame mem n round => by simp [none _ frame mem] at round
    ahead := Nat.zero_le _
    wanted := fun frame mem n round => by simp [none _ frame mem] at round
    heard := fun reached => absurd reached (show ¬ 1 ≤ 0 by decide)
    told := fun frame mem n round => by simp [none _ frame mem] at round
    settled := fun reached => absurd reached (show ¬ 2 ≤ 0 by decide) }

theorem Sync.stationSend (sync : Sync bigendian exchange) {tlv : PackedTlv}
    (built : buildCdcpTlv bigendian exchange.station = some tlv)
    (transmissible : Transmissible exchange.station.lstOperSVIDList) :
    Sync bigendian { exchange with
      toBridge := exchange.toBridge ++
        [⟨tlv, exchange.station.lstOperSVIDList, some exchange.stationRound⟩] } := by
  have carried : Carried bigendian .s
      ⟨tlv, exchange.station.lstOperSVIDList, some exchange.stationRound⟩ :=
    ⟨⟨exchange.station, sync.station.operRole, rfl, built⟩, transmissible,
      sync.station.operNodup, built_more built⟩
  have order : ∀ frame ∈ exchange.toBridge, Later frame
      ⟨tlv, exchange.station.lstOperSVIDList, some exchange.stationRound⟩ :=
    fun frame mem n round => ⟨_, rfl, sync.roundBridge frame mem n round⟩
  exact { sync with
    toBridge := List.forall_mem_append.mpr ⟨sync.toBridge, by simpa using carried⟩
    orderBridge := List.pairwise_append.mpr ⟨sync.orderBridge, by simp, by simpa using order⟩
    roundBridge := List.forall_mem_append.mpr ⟨sync.roundBridge, by simp⟩
    wanted := List.forall_mem_append.mpr ⟨sync.wanted, by simpa using sync.station.channels⟩
    heard := fun reached => by
      have ⟨others, rest⟩ := sync.heard reached
      exact ⟨List.forall_mem_append.mpr ⟨others, by simp⟩, rest⟩ }

theorem Sync.bridgeSend (sync : Sync bigendian exchange) {tlv : PackedTlv}
    (built : buildCdcpTlv bigendian exchange.bridge = some tlv)
    (transmissible : Transmissible exchange.bridge.lstOperSVIDList) :
    Sync bigendian { exchange with
      toStation := exchange.toStation ++
        [⟨tlv, exchange.bridge.lstOperSVIDList, some exchange.bridgeRound⟩] } := by
  have more := built_more built
  have carried : Carried bigendian .b
      ⟨tlv, exchange.bridge.lstOperSVIDList, some exchange.bridgeRound⟩ :=
    ⟨⟨exchange.bridge, sync.bridge.operRole, rfl, built⟩, transmissible,
      sync.bridge.operNodup, more⟩
  have order : ∀ frame ∈ exchange.toStation, Later frame
      ⟨tlv, exchange.bridge.lstOperSVIDList, some exchange.bridgeRound⟩ :=
    fun frame mem n round => ⟨_, rfl, sync.roundStation frame mem n round⟩
  have ahead := sync.ahead
  exact { sync with
    toStation := List.forall_mem_append.mpr ⟨sync.toStation,
      by simpa using ⟨carried, sync.bridge.default more⟩⟩
    orderStation := List.pairwise_append.mpr ⟨sync.orderStation, by simp, by simpa using order⟩
    roundStation := List.forall_mem_append.mpr ⟨sync.roundStation, by simp⟩
    told := List.forall_mem_append.mpr ⟨sync.told, by simp⟩
    settled := fun reached => by
      have ⟨others, rest⟩ := sync.settled reached
      have second : 2 ≤ exchange.stationRound := reached
      have round : 1 ≤ exchange.bridgeRound := by omega
      exact ⟨List.forall_mem_append.mpr ⟨others, by simpa using round⟩, rest⟩ }

theorem Sync.loseToBridge (sync : Sync bigendian exchange) :
    Sync bigendian { exchange with toBridge := exchange.toBridge.tail } := by
  have tail {frame : Frame} : frame ∈ exchange.toBridge.tail → frame ∈ exchange.toBridge :=
    List.mem_of_mem_tail
  exact { sync with
    toBridge := fun frame mem => sync.toBridge frame (tail mem)
    orderBridge := sync.orderBridge.tail
    roundBridge := fun frame mem => sync.roundBridge frame (tail mem)
    wanted := fun frame mem => sync.wanted frame (tail mem)
    heard := fun reached =>
      ⟨fun frame mem => (sync.heard reached).1 frame (tail mem), (sync.heard reached).2⟩ }

theorem Sync.loseToStation (sync : Sync bigendian exchange) :
    Sync bigendian { exchange with toStation := exchange.toStation.tail } := by
  have tail {frame : Frame} : frame ∈ exchange.toStation.tail → frame ∈ exchange.toStation :=
    List.mem_of_mem_tail
  exact { sync with
    toStation := fun frame mem => sync.toStation frame (tail mem)
    orderStation := sync.orderStation.tail
    roundStation := fun frame mem => sync.roundStation frame (tail mem)
    told := fun frame mem => sync.told frame (tail mem)
    settled := fun reached =>
      ⟨fun frame mem => (sync.settled reached).1 frame (tail mem), (sync.settled reached).2⟩ }

/-- The station has worked on a list; from the second round on it is that of the bridge. -/
theorem Sync.stationWorked (sync : Sync bigendian exchange) {frame : Frame}
    {toStation : List Frame} {station : TagCdcpRunningData}
    (queue : exchange.toStation = frame :: toStation) (ok : StationOk station)
    (wants : station.lstAdminSVIDWants = exchange.station.lstAdminSVIDWants)
    (given : ∀ pair ∈ station.lstOperSVIDList, pair.wSvid = svidOf pair.wScid frame.pairs) :
    Sync bigendian { exchange with
      station, toStation, stationRound := nextRound exchange.stationRound frame.round } := by
  have head : frame ∈ exchange.toStation := by simp [queue]
  have tail {other : Frame} (mem : other ∈ toStation) : other ∈ exchange.toStation := by
    simp [queue, mem]
  have ⟨later, order⟩ := List.pairwise_cons.mp (queue ▸ sync.orderStation)
  have grows := le_nextRound exchange.stationRound frame.round
  have wanted := sync.wanted
  have heard := sync.heard
  rw [← wants] at wanted heard
  exact { sync with
    station := ok
    toStation := fun other mem => sync.toStation other (tail mem)
    orderStation := order
    roundBridge := fun other mem n round => Nat.le_trans (sync.roundBridge other mem n round) grows
    roundStation := fun other mem => sync.roundStation other (tail mem)
    ahead := by
      have ahead := sync.ahead
      cases round : frame.round with
      | none => exact ahead
      | some n =>
          have bound := sync.roundStation frame head n round
          exact Nat.max_le.mpr ⟨ahead, Nat.succ_le_succ bound⟩
    wanted := wanted
    heard := heard
    told := fun other mem => sync.told other (tail mem)
    settled := fun reached => by
      have own : ∃ n, frame.round = some n ∧ 1 ≤ n := by
        rcases nextRound_cases reached with old | new
        · exact (sync.settled old).1 frame head
        · exact new
      have ⟨n, round, first⟩ := own
      have same := sync.told frame head n round first
      refine ⟨fun other mem => ?_, same ▸ given⟩
      have ⟨m, next, le⟩ := later other mem n round
      exact ⟨m, next, Nat.le_trans first le⟩ }

/-- The bridge has worked on a list; from the second one on its channels stay. -/
theorem Sync.bridgeWorked (sync : Sync bigendian exchange) {frame : Frame}
    {toBridge : List Frame} {bridge : TagCdcpRunningData}
    (queue : exchange.toBridge = frame :: toBridge) (ok : BridgeOk bridge)
    (role : bridge.ucRemoteRole = .s) (list : bridge.lstRemoteSVIDList = frame.pairs)
    (stays : exchange.bridge.ucRemoteRole = .s →
      compareScidSvidList exchange.bridge.lstLastRemoteSVIDList frame.pairs = true →
        bridge.lstOperSVIDList = exchange.bridge.lstOperSVIDList) :
    Sync bigendian { exchange with
      bridge, toBridge, bridgeRound := nextRound exchange.bridgeRound frame.round } := by
  have head : frame ∈ exchange.toBridge := by simp [queue]
  have tail {other : Frame} (mem : other ∈ toBridge) : other ∈ exchange.toBridge := by
    simp [queue, mem]
  have ⟨later, order⟩ := List.pairwise_cons.mp (queue ▸ sync.orderBridge)
  have grows := le_nextRound exchange.bridgeRound frame.round
  have frozen : 1 ≤ exchange.bridgeRound →
      bridge.lstOperSVIDList = exchange.bridge.lstOperSVIDList := by
    intro reached
    have ⟨others, station, channels⟩ := sync.heard reached
    have ⟨n, round⟩ := others frame head
    have wanted := sync.wanted frame head n round
    have nodup := (sync.toBridge frame head).nodup
    have ⟨_, last, _⟩ := sync.bridge.synced station
    have same := (compare_iff sync.bridge.lastNodup sync.bridge.remoteNodup).mp last
    refine stays station ((compare_iff sync.bridge.lastNodup nodup).mpr fun scid => ?_)
    rw [same, channels, wanted]
  exact { sync with
    bridge := ok
    toBridge := fun other mem => sync.toBridge other (tail mem)
    orderBridge := order
    roundBridge := fun other mem => sync.roundBridge other (tail mem)
    roundStation := fun other mem n round =>
      Nat.le_trans (sync.roundStation other mem n round) grows
    ahead := Nat.le_trans sync.ahead (Nat.succ_le_succ grows)
    wanted := fun other mem => sync.wanted other (tail mem)
    heard := fun reached => by
      have own : ∃ n, frame.round = some n := by
        rcases nextRound_cases reached with old | ⟨n, round, _⟩
        · exact (sync.heard old).1 frame head
        · exact ⟨n, round⟩
      have ⟨n, round⟩ := own
      refine ⟨fun other mem => ?_, role, ?_⟩
      · have ⟨m, next, _⟩ := later other mem n round
        exact ⟨m, next⟩
      · rw [list]
        exact sync.wanted frame head n round
    told := fun other mem n round first => by
      have reached := Nat.le_trans first (sync.roundStation other mem n round)
      rw [frozen reached]
      exact sync.told other mem n round first
    settled := fun reached => by
      have second : 2 ≤ exchange.stationRound := reached
      have ahead := sync.ahead
      rw [frozen (by omega)]
      exact sync.settled reached }

theorem Sync.call (sync : Sync bigendian exchange) {label : ExchangeCall}
    (orderly : Orderly exchange label) (called : exchange.call bigendian label = some next) :
    Sync bigendian next := by
  cases label with
  | stationConfig wants nodup wAdminChnCap =>
      obtain rfl := Option.some.inj called
      exact sync.changed (stationConfig_ok sync.station nodup wAdminChnCap orderly) sync.bridge
  | bridgeConfig wMinVID wMaxVID wAdminChnCap =>
      obtain rfl := Option.some.inj called
      exact sync.changed sync.station (bridgeConfig_ok sync.bridge wAdminChnCap orderly)
  | stationSend =>
      rw [Exchange.call] at called
      split at called
      · obtain rfl := Option.some.inj called
        exact sync
      · next built =>
        obtain rfl := Option.some.inj called
        exact sync.stationSend built orderly
  | bridgeSend =>
      rw [Exchange.call] at called
      split at called
      · obtain rfl := Option.some.inj called
        exact sync
      · next built =>
        obtain rfl := Option.some.inj called
        exact sync.bridgeSend built orderly
  | stationReceive =>
      rw [Exchange.call] at called
      split at called
      · cases called
      · next frame toStation queue =>
        have ⟨carried, first⟩ := sync.toStation frame (by simp [queue])
        have ⟨rx, sComp, chnCap, worked⟩ := carried.receive exchange.station
        have same := orderly frame (by simp [queue])
        have one : svidOf 1 frame.pairs = 1 := svidOf_of_mem carried.nodup first
        have ⟨ok, wants, given⟩ := stationReceive_ok sync.station rx sComp chnCap
          carried.nodup carried.more one same
        rw [worked] at called
        obtain rfl := Option.some.inj called
        exact sync.stationWorked queue ok wants given
  | bridgeReceive =>
      rw [Exchange.call] at called
      split at called
      · cases called
      · next frame toBridge queue =>
        have carried := sync.toBridge frame (by simp [queue])
        have ⟨rx, sComp, chnCap, worked⟩ := carried.receive exchange.bridge
        have first := orderly frame (by simp [queue])
        have ⟨ok, role, list, stays⟩ := bridgeReceive_ok sync.bridge rx sComp chnCap
          carried.nodup carried.more first
        rw [worked] at called
        obtain rfl := Option.some.inj called
        exact sync.bridgeWorked queue ok role list stays
  | loseToStation =>
      obtain rfl := Option.some.inj called
      exact sync.loseToStation
  | loseToBridge =>
      obtain rfl := Option.some.inj called
      exact sync.loseToBridge

/-- The S-VIDs of the last round. -/
theorem Sync.agree (sync : Sync bigendian exchange) (exchanged : exchange.Exchanged) :
    exchange.Agree := by
  have ⟨stationRound, bridgeRound⟩ := exchanged
  have ⟨_, given⟩ := sync.settled stationRound
  have ⟨_, role, heard⟩ := sync.heard (Nat.le_of_succ_le bridgeRound)
  have ⟨_, last, _⟩ := sync.bridge.synced role
  have same := (compare_iff sync.bridge.lastNodup sync.bridge.remoteNodup).mp last
  refine ⟨sync.station.channels, fun pair mem known => ?_, fun pair mem unknown => ?_⟩
  · obtain ⟨other, there, scid⟩ := List.mem_map.mp known
    have svid := given pair mem
    rw [← scid, svidOf_of_mem sync.bridge.operNodup there] at svid
    have eq : other = pair := by
      cases other
      cases pair
      simp only at scid svid
      rw [scid, svid]
    subst eq
    exact ⟨there, sync.bridge.nonzero other there⟩
  · have svid := given pair mem
    rw [svidOf_of_not_mem unknown] at svid
    refine ⟨svid, ?_⟩
    have wanted := (sync.station.channels pair.wScid).mp (List.mem_map_of_mem mem)
    have listed := (same pair.wScid).mpr ((heard pair.wScid).mpr wanted)
    obtain ⟨other, there, scid⟩ := List.mem_map.mp listed
    have done := sync.bridge.assigned other there
    rw [scid] at done
    exact done.resolve_left unknown

/-- As long as every list can come over, and no comparison of channels hides a change, the station
and the bridge agree after two rounds. -/
theorem agree_of_orderly {labels : List ExchangeCall}
    (run : Run (Guarded Orderly (ExchangeStep bigendian)) Exchange.start labels exchange)
    (exchanged : exchange.Exchanged) : exchange.Agree := by
  have sync : Sync bigendian exchange :=
    run.invariant sync_start fun _ _ _ kept taken => kept.call taken.1 taken.2
  exact sync.agree exchanged

end System

section Examples

def exchangeNext (exchange : Exchange) (label : ExchangeCall) : Exchange :=
  (exchange.call true label).getD exchange

/-- A channel that is wanted after the first exchange gets the first VLAN of the pool. -/
theorem agreed_after_change :
    let exchange := [.bridgeConfig 2 12 5, .stationConfig [1] (by decide) 5, .stationSend,
      .bridgeReceive, .bridgeSend, .stationReceive, .stationConfig [1, 2] (by decide) 5,
      .stationSend, .bridgeReceive, .bridgeSend, .stationReceive, .stationSend,
      .bridgeReceive].foldl exchangeNext Exchange.start
    exchange.station.lstOperSVIDList = [⟨1, 1⟩, ⟨2, 2⟩] ∧ exchange.Agree := by
  intro exchange
  have replays : Replays (Guarded Orderly (ExchangeStep true)) exchangeNext Exchange.start
      [.bridgeConfig 2 12 5, .stationConfig [1] (by decide) 5, .stationSend, .bridgeReceive,
        .bridgeSend, .stationReceive, .stationConfig [1, 2] (by decide) 5, .stationSend,
        .bridgeReceive, .bridgeSend, .stationReceive, .stationSend, .bridgeReceive] := by
    decide
  exact ⟨by decide, agree_of_orderly (Run.replay replays)
    ⟨by decide, by decide⟩⟩

/-- Channels that are in the first list of all are not assigned, however many VLANs are free. -/
theorem never_assigned :
    ¬ ∀ bigendian labels exchange, Run (ExchangeStep bigendian) Exchange.start labels exchange →
      exchange.Exchanged → exchange.Agree := by
  intro all
  let labels : List ExchangeCall := [.bridgeConfig 2 12 5, .stationConfig [1, 2, 3] (by decide) 5,
    .stationSend, .bridgeReceive, .bridgeSend, .stationReceive, .stationSend, .bridgeReceive]
  let exchange := labels.foldl exchangeNext Exchange.start
  have replays : Replays (ExchangeStep true) exchangeNext Exchange.start labels := by
    decide
  have agree := all true labels exchange (Run.replay replays)
    ⟨by decide, by decide⟩
  have ⟨_, full⟩ := agree.others ⟨2, 0⟩ (by decide) (by decide)
  exact absurd (full ⟨2, false⟩ (by decide)) (by decide)

end Examples

end Tecs.Cdcp
