import Tecs.Vnm.ScheduleCalls

set_option autoImplicit false

/-! When an allocation that succeeds gives no switch and no port to more vNICs than it is free
for. -/

namespace Tecs.VnmSchedule

section Statement

variable (inv : Inventory) (strVNAUuid : String) (info : CScheduleInfo)

/-- The groups in the order in which their kinds are served. -/
def CScheduleInfo.allGroups (info : CScheduleInfo) : List CReqNumInfo :=
  info.groups .vxlan ++ (info.groups .normal ++ info.groups .bond)

/-- The groups as `CountMtus` makes them: a vNIC is in one of them, and each is new. -/
structure Proper (info : CScheduleInfo) : Prop where
  nodup : (info.allGroups.flatMap CReqNumInfo.setVnicIter).Nodup
  number : ∀ kind, ∀ group ∈ info.groups kind, group.nSourceNum = group.setVnicIter.length
  fresh : ∀ kind, ∀ group ∈ info.groups kind,
    group.strDeployedDvs = "" ∧ group.vecSchResult = []
  networks : info.isLoop = true → (info.allGroups.map CReqNumInfo.strLogicNetwork).Nodup
  noBond : info.isLoop = true → info.vecSriovBondMTUNum = []

/-- The switch is in a row for a group of the kind. -/
def Named (kind : QueryDbSchType) (s : String) : Prop :=
  ∃ group ∈ info.groups kind, ∃ row ∈ rowsOf inv info kind group, row.switchUuid = s

/-- No group of the kind has two rows of the switch, or only one of them is used. -/
def OnceEach (kind : QueryDbSchType) (s : String) : Prop :=
  info.isLoop = true ∨ ∀ group ∈ info.groups kind,
    ((rowsOf inv info kind group).filter fun row => row.switchUuid = s).length ≤ 1

/-- A switch without a bond of which rows are used that do not know of each other: `GetSDVSRes`
and `GetEDVSRes` begin with an empty `vecDBUpdate`, and it is merged once for a group. -/
def Doubtful (s : String) : Prop :=
  inv.members s = [] ∧ ((Named inv info .vxlan s ∧ Named inv info .normal s) ∨
    ¬ OnceEach inv info .vxlan s ∨ ¬ OnceEach inv info .normal s)

def ruleOf (info : CScheduleInfo) : RowRule := if info.isSriov then edvsRule else sdvsRule

/-- What the code relies on for vNICs with SR-IOV: that none is in a VXLAN, that those of a group
have no switch yet, that a switch with a free port is not used up, and that one which is not has
a free port. -/
structure Guarded (alloc : Alloc) : Prop where
  vxlan : info.isSriov = true → ∀ group ∈ info.vecVxlanMTUNum, group.setVnicIter = []
  unset : ∀ group ∈ info.vecSriovBondMTUNum, ∀ nic ∈ group.setVnicIter,
    alloc.vSwitchUuid nic = ""
  numbers : ∀ row ∈ singleTakes inv strVNAUuid info alloc, row.switchSriovFreeNum ≥ 1
  ports : ∀ s ∈ groupOuts inv strVNAUuid info alloc, s.HasPort

/-- What the code relies on without a check. -/
structure Fits (alloc : Alloc) : Prop extends Guarded inv strVNAUuid info alloc where
  rows : ∀ kind, ∀ offer ∈ kindOffers inv strVNAUuid info alloc kind,
    Doubtful inv info offer.row.switchUuid →
      offer.Backed (ruleOf info) (inv.switchFree offer.row.switchUuid)

/-- Nobody has been given anything. -/
def Alloc.begin (vSwitchUuid : ℕ → String) (mapVnicSriov : List (String × ℕ)) : Alloc :=
  ⟨vSwitchUuid, mapVnicSriov, [], []⟩

/-- What a successful allocation is to be. -/
structure Sound (result : Alloc) : Prop where
  placed : ∀ kind, ∀ group ∈ info.groups kind, ∀ nic ∈ group.setVnicIter, ∃ grant,
    result.given.filter (fun grant => grant.nic = nic) = [grant] ∧
      result.vSwitchUuid nic = grant.switchUuid ∧ grant.switchUuid ≠ "" ∧
      ∃ row ∈ rowsOf inv info kind group, row.switchUuid = grant.switchUuid
  switches : ∀ s, result.used s ≤ inv.switchFree s
  ports : ∀ s, ∀ q ∈ inv.members s, result.usedPort q ≤ inv.portFree q
  whole : ∀ row ∈ result.written, row.Whole
  loop : info.isLoop = true → ∀ network, ∃ name,
    (∀ d, inv.queryDeployByProjectLn network = some [d] → name = d.switchUuid) ∧
      ∀ kind, ∀ group ∈ info.groups kind, group.strLogicNetwork = network →
        ∀ nic ∈ group.setVnicIter, result.vSwitchUuid nic = name

end Statement

section Prepared

variable {inv : Inventory} {strVNAUuid : String} {info : CScheduleInfo} {kind : QueryDbSchType}
  {vSwitchUuid : ℕ → String} {mapVnicSriov : List (String × ℕ)} {start result : Alloc}
  {group : CReqNumInfo} {s : String}

theorem mem_preparedGroups : group ∈ preparedGroups inv info kind ↔
    ∃ asking ∈ info.groups kind, prepared inv info kind asking = group := List.mem_map

theorem unnamed_rows (unnamed : ¬ Named inv info kind s) :
    ∀ group ∈ preparedGroups inv info kind, ∀ row ∈ group.vecSchResult, row.switchUuid ≠ s := by
  intro group member row inside same
  obtain ⟨asking, there, rfl⟩ := mem_preparedGroups.mp member
  exact unnamed ⟨asking, there, row, inside, same⟩

theorem onceEach_prepared (once : OnceEach inv info kind s) : info.isLoop = true ∨
    ∀ group ∈ preparedGroups inv info kind,
      (group.vecSchResult.filter fun row => row.switchUuid = s).length ≤ 1 := by
  refine once.imp id fun each group member => ?_
  obtain ⟨asking, there, rfl⟩ := mem_preparedGroups.mp member
  exact each asking there

theorem preparedGroups_vnics : (preparedGroups inv info kind).flatMap CReqNumInfo.setVnicIter =
    (info.groups kind).flatMap CReqNumInfo.setVnicIter :=
  List.flatMap_map (prepared inv info kind) CReqNumInfo.setVnicIter (info.groups kind)

theorem good_begin : (Alloc.begin vSwitchUuid mapVnicSriov).Good :=
  ⟨fun _ => (nomatch ·), List.nodup_nil, fun _ => (nomatch ·)⟩

theorem disjoint_begin (proper : Proper info) :
    Disjoint (Alloc.begin vSwitchUuid mapVnicSriov) (preparedGroups inv info .vxlan ++
      (preparedGroups inv info .normal ++ preparedGroups inv info .bond)) := by
  refine ⟨?_, fun _ _ _ _ => (nomatch ·), ?_⟩
  · have nodup := proper.nodup
    rw [CScheduleInfo.allGroups, List.flatMap_append, List.flatMap_append] at nodup
    rw [List.flatMap_append, List.flatMap_append, preparedGroups_vnics, preparedGroups_vnics,
      preparedGroups_vnics]
    exact nodup
  · have each : ∀ kind, ∀ group ∈ preparedGroups inv info kind,
        group.nSourceNum = group.setVnicIter.length := by
      intro kind group member
      obtain ⟨asking, there, rfl⟩ := mem_preparedGroups.mp member
      exact proper.number kind asking there
    rw [List.forall_mem_append, List.forall_mem_append]
    exact ⟨each .vxlan, each .normal, each .bond⟩

theorem prepared_readFrom (proper : Proper info) :
    ∀ group ∈ preparedGroups inv info kind, group.ReadFrom inv := by
  intro group member
  obtain ⟨asking, there, rfl⟩ := mem_preparedGroups.mp member
  exact rowsOf_fromInv (proper.fresh kind asking there)

theorem KindResult.remap {groups : List CReqNumInfo} {m : List (String × ℕ)}
    (kind : KindResult groups { start with mapVnicSriov := m } result) :
    KindResult groups start result :=
  ⟨kind.good, kind.grows, kind.own, kind.served, kind.untouched⟩

theorem Disjoint.remap {groups : List CReqNumInfo} {m : List (String × ℕ)}
    (disjoint : Disjoint start groups) : Disjoint { start with mapVnicSriov := m } groups :=
  ⟨disjoint.nodup, disjoint.fresh, disjoint.number⟩

theorem Alloc.Good.remap {m : List (String × ℕ)} (good : start.Good) :
    Alloc.Good { start with mapVnicSriov := m } := ⟨good.set, good.once, good.whole⟩

theorem ruleOf_sdvs (sriov : info.isSriov = false) : ruleOf info = sdvsRule := by
  rw [ruleOf, sriov, if_neg Bool.false_ne_true]

theorem ruleOf_edvs (sriov : info.isSriov = true) : ruleOf info = edvsRule := by
  rw [ruleOf, if_pos sriov]

/-- What the two kinds of single vNICs have in common. -/
structure KindSound (inv : Inventory) (info : CScheduleInfo) (kind : QueryDbSchType)
    (offers : List Offer) (start result : Alloc) : Prop where
  outcome : KindResult (preparedGroups inv info kind) start result
  loops : info.isLoop = true → ∀ group ∈ preparedGroups inv info kind, group.OneSwitch result
  tracks : ∀ s, inv.members s = [] → start.used s = 0 → OnceEach inv info kind s →
    result.used s ≤ inv.switchFree s
  used : ∀ s, inv.members s = [] → (result.used s ≤ inv.switchFree s ↔
    start.used s ≤ inv.switchFree s ∧ ∀ offer ∈ offers, offer.row.switchUuid = s →
      offer.Backed (ruleOf info) (inv.switchFree s))

variable {alloc : Alloc} {state state' : Alloc × List CDbSchedule}

theorem sdvs_sound (proper : Proper info) (sriov : info.isSriov = false) (single : kind ≠ .bond)
    (good : state.1.Good) (disjoint : Disjoint state.1 (preparedGroups inv info kind))
    (before : stateBefore inv strVNAUuid info alloc kind = .ok state)
    (done : allocKind inv strVNAUuid info kind state = .ok state') :
    KindSound inv info kind (kindOffers inv strVNAUuid info alloc kind) state.1 state'.1 ∧
      ∀ q, state'.1.usedPort q = state.1.usedPort q := by
  obtain ⟨m, begins, served⟩ := allocKind_sdvs sriov single done
  have readFrom := @prepared_readFrom inv info kind proper
  have read : ∀ group ∈ preparedGroups inv info kind, Read CDbSchedule.Whole group :=
    fun group member row inside => ⟨(readFrom group member row inside).wholeEven.1,
      (readFrom group member row inside).named⟩
  have noRows : ∀ u ∈ ([] : List CDbSchedule), u.Whole := fun _ => (nomatch ·)
  have begun : Alloc.Good { state.1 with mapVnicSriov := m } := good.remap
  obtain ⟨result, loops⟩ := sdvsGroups_result begun disjoint.remap read noRows served
  refine ⟨⟨result.remap, loops, ?_, ?_⟩, fun q => (sdvsGroups_ports q served).trans rfl⟩
  · intro s _ unused once
    have numbers : ∀ group ∈ preparedGroups inv info kind, ∀ row ∈ group.vecSchResult,
        row.switchUuid = s → sdvsRule.free row = inv.switchFree s := by
      intro group member row inside same
      exact (readFrom group member row inside).free.trans (by rw [same])
    exact sdvsGroups_tracks begun disjoint.remap read noRows (onceEach_prepared once) numbers
      (tracks_nil unused) served
  · intro s _
    rw [kindOffers_sdvs sriov single (kindBegin_ok before begins), ruleOf_sdvs sriov]
    exact sdvsGroups_used disjoint.remap begun read noRows served

/-- Nothing is used, and nothing is noted. -/
theorem books_begin (none : start.given = []) : Books inv start [] [] := by
  have used : ∀ s, start.used s = 0 := fun s => by rw [Alloc.used, none]; rfl
  have ports : ∀ q, start.usedPort q = 0 := fun q => by rw [Alloc.usedPort, none]; rfl
  have tracks : BondTracks inv start [] := ⟨by simp,
    fun s _ some => (some (used s)).elim, fun _ q _ some => (some (ports q)).elim⟩
  refine ⟨⟨?_, ?_⟩, by simp, tracks, tracks⟩
  · intro s q _
    rw [ports q]
    exact Nat.zero_le _
  · intro s _
    rw [used s]
    exact Nat.zero_le _

theorem edvs_sound (proper : Proper info) (sriov : info.isSriov = true)
    (none : start.given = []) (good : start.Good)
    (disjoint : Disjoint start (preparedGroups inv info .normal))
    (before : stateBefore inv strVNAUuid info alloc .normal = .ok (start, []))
    (numbers : ∀ row ∈ singleTakes inv strVNAUuid info alloc, row.switchSriovFreeNum ≥ 1)
    (done : allocKind inv strVNAUuid info .normal (start, []) = .ok state') :
    KindSound inv info .normal (kindOffers inv strVNAUuid info alloc .normal) start state'.1 ∧
      Book inv state'.1 ∧ BondTracks inv state'.1 state'.2 := by
  obtain ⟨m, begins, served⟩ := allocKind_edvs sriov done
  have kind := kindBegin_ok before begins
  have readFrom := @prepared_readFrom inv info .normal proper
  have books : Books inv { start with mapVnicSriov := m } [] [] := books_begin none
  have loopPlain : info.isLoop = true → ∀ group ∈ preparedGroups inv info .normal,
      ∀ row ∈ group.vecSchResult, row.isBondNic = false := by
    intro loop group member
    obtain ⟨asking, there, rfl⟩ := mem_preparedGroups.mp member
    exact rowsOf_plain (proper.fresh .normal asking there) (by decide) (Or.inl loop)
  rw [singleTakes, kind] at numbers
  replace numbers := by simpa only [sriov, if_true] using numbers
  obtain ⟨result, book, tracks, loops⟩ := edvsGroups_result good.remap disjoint.remap readFrom
    books loopPlain numbers served
  refine ⟨⟨result.remap, loops, ?_, ?_⟩, book, tracks⟩
  · intro s plain unused once
    exact edvsGroups_tracks plain good.remap disjoint.remap readFrom books
      (onceEach_prepared once) (tracks_nil unused) numbers served
  · intro s plain
    rw [kindOffers_edvs sriov kind, ruleOf_edvs sriov]
    exact edvsGroups_used plain good.remap disjoint.remap readFrom books numbers served

theorem bond_sound (proper : Proper info) (sriov : info.isSriov = true)
    (unset : ∀ group ∈ preparedGroups inv info .bond, ∀ nic ∈ group.setVnicIter,
      state.1.vSwitchUuid nic = "")
    (good : state.1.Good) (disjoint : Disjoint state.1 (preparedGroups inv info .bond))
    (book : Book inv state.1) (tracks : BondTracks inv state.1 state.2)
    (before : stateBefore inv strVNAUuid info alloc .bond = .ok state)
    (ports : ∀ s ∈ groupOuts inv strVNAUuid info alloc, s.HasPort)
    (done : allocKind inv strVNAUuid info .bond state = .ok state') :
    KindResult (preparedGroups inv info .bond) state.1 state'.1 ∧ Book inv state'.1 := by
  obtain ⟨m, begins, served⟩ := allocKind_bond sriov done
  have begun : Alloc.Good { state.1 with mapVnicSriov := m } := good.remap
  have apart : Disjoint { state.1 with mapVnicSriov := m } (preparedGroups inv info .bond) :=
    disjoint.remap
  have read : ∀ group ∈ preparedGroups inv info .bond, group.ReadBonds inv := by
    intro group member
    obtain ⟨asking, there, rfl⟩ := mem_preparedGroups.mp member
    exact prepared_readBonds (proper.fresh .bond asking there)
  rw [groupOuts, kindBegin_ok before begins] at ports
  replace ports := by simpa only [sriov, if_true] using ports
  have kept : BondFrame inv state.1 { state.1 with mapVnicSriov := m } :=
    ⟨fun _ _ => rfl, fun _ => rfl⟩
  obtain ⟨result, last⟩ := bondGroups_result begun apart unset read (book.frame kept)
    (tracks.frame kept) ports served
  exact ⟨result.remap, last⟩

end Prepared

section Result

variable {inv : Inventory} {strVNAUuid : String} {info : CScheduleInfo} {kind : QueryDbSchType}
  {vSwitchUuid : ℕ → String} {mapVnicSriov : List (String × ℕ)} {start result : Alloc}

theorem filter_nic {given : List Grant} (once : (given.map Grant.nic).Nodup) {grant : Grant}
    (member : grant ∈ given) : given.filter (fun other => other.nic = grant.nic) = [grant] := by
  induction given with
  | nil => cases member
  | cons first rest ih =>
      rw [List.map_cons, List.nodup_cons] at once
      rcases List.mem_cons.mp member with rfl | later
      · have none : rest.filter (fun other => other.nic = grant.nic) = [] := by
          apply List.filter_eq_nil_iff.mpr
          intro other inside
          rw [decide_eq_true_eq]
          exact fun same => once.1 (same ▸ List.mem_map_of_mem inside)
        rw [List.filter_cons, if_pos (decide_eq_true rfl), none]
      · have other : first.nic ≠ grant.nic := fun same =>
          once.1 (same ▸ List.mem_map_of_mem later)
        rw [List.filter_cons, if_neg (by simpa using other)]
        exact ih once.2 later

theorem mem_allGroups {group : CReqNumInfo} (member : group ∈ info.groups kind) :
    group ∈ info.allGroups := by
  unfold CScheduleInfo.allGroups
  rw [List.mem_append, List.mem_append]
  cases kind with
  | vxlan => exact Or.inl member
  | normal => exact Or.inr (Or.inl member)
  | bond => exact Or.inr (Or.inr member)

/-- All groups of all kinds together. -/
abbrev AllServed (inv : Inventory) (info : CScheduleInfo) (start result : Alloc) : Prop :=
  KindResult (preparedGroups inv info .vxlan ++
    (preparedGroups inv info .normal ++ preparedGroups inv info .bond)) start result

theorem AllServed.served (all : AllServed inv info start result) :
    ∀ group ∈ preparedGroups inv info kind, group.Served result := by
  have each := KindResult.served all
  rw [List.forall_mem_append, List.forall_mem_append] at each
  cases kind with
  | vxlan => exact each.1
  | normal => exact each.2.1
  | bond => exact each.2.2

theorem placed_of (all : AllServed inv info start result) :
    ∀ kind, ∀ group ∈ info.groups kind, ∀ nic ∈ group.setVnicIter, ∃ grant,
      result.given.filter (fun grant => grant.nic = nic) = [grant] ∧
        result.vSwitchUuid nic = grant.switchUuid ∧ grant.switchUuid ≠ "" ∧
        ∃ row ∈ rowsOf inv info kind group, row.switchUuid = grant.switchUuid := by
  intro kind group member nic inside
  obtain ⟨grant, given, rfl, row⟩ := AllServed.served all (prepared inv info kind group)
    (mem_preparedGroups.mpr ⟨group, member, rfl⟩) nic inside
  have set := KindResult.good all |>.set grant given
  exact ⟨grant, filter_nic (KindResult.good all).once given, set.1, set.2, row⟩

/-- The groups of the loop case have networks of their own, so that each is on one switch. -/
theorem loop_of (proper : Proper info) (all : AllServed inv info start result)
    (loop : info.isLoop = true)
    (ones : ∀ kind, ∀ group ∈ preparedGroups inv info kind, group.OneSwitch result)
    (network : String) : ∃ name,
      (∀ d, inv.queryDeployByProjectLn network = some [d] → name = d.switchUuid) ∧
        ∀ kind, ∀ group ∈ info.groups kind, group.strLogicNetwork = network →
          ∀ nic ∈ group.setVnicIter, result.vSwitchUuid nic = name := by
  by_cases any : ∃ kind, ∃ group ∈ info.groups kind, group.strLogicNetwork = network
  · obtain ⟨kind, group, member, rfl⟩ := any
    have prepares : prepared inv info kind group ∈ preparedGroups inv info kind :=
      mem_preparedGroups.mpr ⟨group, member, rfl⟩
    obtain ⟨name, deployed, same⟩ := ones kind (prepared inv info kind group) prepares
    refine ⟨name, ?_, ?_⟩
    · intro d found
      have dvs : (prepared inv info kind group).strDeployedDvs = d.switchUuid := by
        rw [prepared, if_pos loop, Inventory.deployedDvs, found]
      rw [dvs] at deployed
      exact deployed (inv.deployed _ [d] found d (List.mem_singleton_self d))
    · intro other another there network nic inside
      have one := List.inj_on_of_nodup_map (proper.networks loop) (mem_allGroups there)
        (mem_allGroups member) network
      subst one
      obtain ⟨grant, given, rfl, -⟩ := AllServed.served all _ prepares nic inside
      exact same grant.nic inside (List.mem_map_of_mem given)
  · have nobody : ∀ name : String, ∀ kind, ∀ group ∈ info.groups kind,
        group.strLogicNetwork = network → ∀ nic ∈ group.setVnicIter,
          result.vSwitchUuid nic = name :=
      fun _ kind group member same => (any ⟨kind, group, member, same⟩).elim
    by_cases found : ∃ d, inv.queryDeployByProjectLn network = some [d]
    · obtain ⟨d, found⟩ := found
      refine ⟨d.switchUuid, ?_, nobody d.switchUuid⟩
      intro other again
      rw [found] at again
      cases again
      rfl
    · exact ⟨"", fun d some => (found ⟨d, some⟩).elim, nobody ""⟩

variable {s : String}

/-- The rows of any other switch without a bond know of each other. -/
theorem once_of_certain (plain : inv.members s = []) (certain : ¬ Doubtful inv info s) :
    ¬ (Named inv info .vxlan s ∧ Named inv info .normal s) ∧ OnceEach inv info .vxlan s ∧
      OnceEach inv info .normal s := by
  have clear := fun doubts => certain ⟨plain, doubts⟩
  rw [imp_false, not_or, not_or, not_not, not_not] at clear
  exact clear

theorem unnamed_plain (proper : Proper info) (single : kind ≠ .bond)
    (one : info.isLoop = true ∨ info.isSriov = false) (bond : inv.members s ≠ []) :
    ¬ Named inv info kind s := by
  rintro ⟨group, member, row, inside, rfl⟩
  have fresh := proper.fresh kind group member
  exact bond ((rowsOf_fromInv fresh row inside).plain
    (rowsOf_plain fresh single one row inside)).1

theorem unnamed_bond (proper : Proper info) (plain : inv.members s = []) :
    ¬ Named inv info .bond s := by
  rintro ⟨group, member, row, inside, rfl⟩
  have fresh := proper.fresh .bond group member
  have bond := (@prepared_readBonds inv info group fresh).bond row inside
  have port := ((rowsOf_fromInv fresh row inside).bond bond).1
  rw [plain] at port
  cases port

theorem groups_nil (none : info.groups kind = []) : preparedGroups inv info kind = [] := by
  rw [preparedGroups, none, List.map_nil]

theorem kindResult_idle (good : start.Good) {groups : List CReqNumInfo}
    {m : List (String × ℕ)} (none : ∀ group ∈ groups, group.setVnicIter = []) :
    KindResult groups start { start with mapVnicSriov := m } where
  good := good.remap
  grows := List.prefix_refl _
  own := fun _ => Or.inl
  served group member nic inside := by
    rw [none group member] at inside
    cases inside
  untouched _ _ := rfl

/-- An allocation without SR-IOV. -/
theorem sdvs_sound_iff (proper : Proper info) (sriov : info.isSriov = false)
    (done : getDVSAllocResult inv strVNAUuid info (Alloc.begin vSwitchUuid mapVnicSriov) =
      .ok result) : Sound inv info result ↔
        Fits inv strVNAUuid info (Alloc.begin vSwitchUuid mapVnicSriov) := by
  obtain ⟨first, vxlanDone, more⟩ := bind_ok done
  obtain ⟨second, normalDone, last⟩ := bind_ok more
  obtain ⟨third, bondDone, rfl⟩ := map_ok last
  obtain ⟨noBond, m, kept⟩ := allocKind_noBond sriov bondDone
  have disjoint := @disjoint_begin inv info vSwitchUuid mapVnicSriov proper
  obtain ⟨vxlan, vxlanPorts⟩ := sdvs_sound proper sriov (by decide) good_begin disjoint.left
    rfl vxlanDone
  obtain ⟨normal, normalPorts⟩ := sdvs_sound proper sriov (by decide) vxlan.outcome.good
    (vxlan.outcome.disjoint disjoint).left vxlanDone normalDone
  have bonds : preparedGroups inv info .bond = [] := groups_nil noBond
  have bondResult : KindResult [] second.1 third.1 := by
    rw [kept]
    exact kindResult_idle normal.outcome.good fun _ => (nomatch ·)
  have sameUsed : ∀ s, third.1.used s = second.1.used s := fun s => by rw [kept]; rfl
  have all : AllServed inv info (Alloc.begin vSwitchUuid mapVnicSriov) third.1 := by
    unfold AllServed
    rw [bonds]
    exact vxlan.outcome.append (normal.outcome.append bondResult)
  have guarded : Guarded inv strVNAUuid info (Alloc.begin vSwitchUuid mapVnicSriov) := by
    refine ⟨fun with_ => ?_, ?_, ?_, ?_⟩
    · rw [sriov] at with_
      cases with_
    · rw [noBond]
      exact fun _ => (nomatch ·)
    · rw [singleTakes, sriov]
      split <;> exact fun _ => (nomatch ·)
    · rw [groupOuts, sriov]
      split <;> exact fun _ => (nomatch ·)
  constructor
  · intro sound
    refine ⟨guarded, ?_⟩
    have bound : ∀ s, second.1.used s ≤ inv.switchFree s := fun s => sameUsed s ▸ sound.switches s
    intro kind offer offered doubtful
    cases kind with
    | vxlan =>
        have before := Nat.le_trans (used_mono normal.outcome.grows offer.row.switchUuid)
          (bound offer.row.switchUuid)
        exact ((vxlan.used _ doubtful.1).mp before).2 offer offered rfl
    | normal => exact ((normal.used _ doubtful.1).mp (bound _)).2 offer offered rfl
    | bond =>
        rw [kindOffers_idle (Or.inl rfl)] at offered
        cases offered
  · intro fits
    refine ⟨placed_of all, ?_, ?_, (KindResult.good all).whole, ?_⟩
    · intro s
      rw [sameUsed s]
      by_cases plain : inv.members s = []
      · by_cases doubtful : Doubtful inv info s
        · refine (normal.used s plain).mpr ⟨(vxlan.used s plain).mpr ⟨Nat.zero_le _, ?_⟩, ?_⟩
          · exact fun offer offered same =>
              same ▸ fits.rows .vxlan offer offered (same ▸ doubtful)
          · exact fun offer offered same =>
              same ▸ fits.rows .normal offer offered (same ▸ doubtful)
        · obtain ⟨apart, vxlanOnce, normalOnce⟩ := once_of_certain plain doubtful
          by_cases named : Named inv info .vxlan s
          · rw [normal.outcome.used_other (unnamed_rows fun again => apart ⟨named, again⟩)]
            exact vxlan.tracks s plain rfl vxlanOnce
          · exact normal.tracks s plain (vxlan.outcome.used_other (unnamed_rows named)) normalOnce
      · have unnamed : ∀ kind ≠ .bond, ¬ Named inv info kind s :=
          fun _ single => unnamed_plain proper single (Or.inr sriov) plain
        rw [normal.outcome.used_other (unnamed_rows (unnamed .normal (by decide))),
          vxlan.outcome.used_other (unnamed_rows (unnamed .vxlan (by decide)))]
        exact Nat.zero_le _
    · intro s q _
      have same : third.1.usedPort q = second.1.usedPort q := by rw [kept]; rfl
      rw [same, normalPorts q, vxlanPorts q]
      exact Nat.zero_le _
    · intro loop
      apply loop_of proper all loop
      intro kind group member
      cases kind with
      | vxlan =>
          exact (vxlan.loops loop group member).mono (vxlan.outcome.served group member)
            vxlan.outcome.good bondResult.good
            (normal.outcome.grows.trans bondResult.grows)
      | normal =>
          exact (normal.loops loop group member).mono (normal.outcome.served group member)
            normal.outcome.good bondResult.good bondResult.grows
      | bond =>
          rw [bonds] at member
          cases member

/-- An allocation with SR-IOV, if what is not checked for bonds holds. -/
theorem sriov_sound_iff (proper : Proper info) (sriov : info.isSriov = true)
    (guarded : Guarded inv strVNAUuid info (Alloc.begin vSwitchUuid mapVnicSriov))
    (done : getDVSAllocResult inv strVNAUuid info (Alloc.begin vSwitchUuid mapVnicSriov) =
      .ok result) : Sound inv info result ↔
        Fits inv strVNAUuid info (Alloc.begin vSwitchUuid mapVnicSriov) := by
  obtain ⟨first, vxlanDone, more⟩ := bind_ok done
  obtain ⟨second, normalDone, last⟩ := bind_ok more
  obtain ⟨third, bondDone, rfl⟩ := map_ok last
  obtain ⟨m, rfl⟩ := allocKind_idle sriov vxlanDone
  have idle : ∀ group ∈ preparedGroups inv info .vxlan, group.setVnicIter = [] := by
    intro group member
    obtain ⟨asking, there, rfl⟩ := mem_preparedGroups.mp member
    exact guarded.vxlan sriov asking there
  have disjoint := @disjoint_begin inv info vSwitchUuid mapVnicSriov proper
  have vxlan := @kindResult_idle (Alloc.begin vSwitchUuid mapVnicSriov) good_begin _ m idle
  have apart := vxlan.disjoint disjoint
  obtain ⟨normal, book, tracks⟩ := edvs_sound proper sriov rfl vxlan.good apart.left vxlanDone
    guarded.numbers normalDone
  have unset : ∀ group ∈ preparedGroups inv info .bond, ∀ nic ∈ group.setVnicIter,
      second.1.vSwitchUuid nic = "" := by
    intro group member nic inside
    rw [normal.outcome.untouched nic
      ((normal.outcome.disjoint apart).fresh group member nic inside)]
    obtain ⟨asking, there, rfl⟩ := mem_preparedGroups.mp member
    exact guarded.unset asking there nic inside
  have before := stateBefore_bond vxlanDone normalDone
  obtain ⟨bond, final⟩ := bond_sound proper sriov unset normal.outcome.good
    (normal.outcome.disjoint apart) book tracks before guarded.ports bondDone
  have all : AllServed inv info (Alloc.begin vSwitchUuid mapVnicSriov) third.1 :=
    vxlan.append (normal.outcome.append bond)
  have alone : ∀ s, inv.members s = [] → third.1.used s = second.1.used s :=
    fun s plain => bond.used_other (unnamed_rows (unnamed_bond proper plain))
  constructor
  · intro sound
    refine ⟨guarded, ?_⟩
    intro kind offer offered doubtful
    cases kind with
    | normal =>
        have bound := sound.switches offer.row.switchUuid
        rw [alone _ doubtful.1] at bound
        exact ((normal.used _ doubtful.1).mp bound).2 offer offered rfl
    | vxlan =>
        rw [kindOffers_idle (Or.inr ⟨rfl, sriov⟩)] at offered
        cases offered
    | bond =>
        rw [kindOffers_idle (Or.inl rfl)] at offered
        cases offered
  · intro fits
    refine ⟨placed_of all, ?_, final.ports, (KindResult.good all).whole, ?_⟩
    · intro s
      by_cases plain : inv.members s = []
      · rw [alone s plain]
        by_cases doubtful : Doubtful inv info s
        · exact (normal.used s plain).mpr ⟨Nat.zero_le _, fun offer offered same =>
            same ▸ fits.rows .normal offer offered (same ▸ doubtful)⟩
        · obtain ⟨-, -, normalOnce⟩ := once_of_certain plain doubtful
          exact normal.tracks s plain rfl normalOnce
      · exact final.switch s plain
    · intro loop
      apply loop_of proper all loop
      intro kind group member
      cases kind with
      | vxlan =>
          refine ⟨group.strDeployedDvs, fun _ => rfl, fun nic inside => ?_⟩
          rw [idle group member] at inside
          cases inside
      | normal =>
          exact (normal.loops loop group member).mono (normal.outcome.served group member)
            normal.outcome.good bond.good bond.grows
      | bond =>
          have noBond : info.groups .bond = [] := proper.noBond loop
          rw [groups_nil noBond] at member
          cases member

/-- A sound allocation with SR-IOV took no port that a bond or its switch had not. -/
theorem guarded_of_sound (proper : Proper info) (sriov : info.isSriov = true)
    (done : getDVSAllocResult inv strVNAUuid info (Alloc.begin vSwitchUuid mapVnicSriov) =
      .ok result) (sound : Sound inv info result) :
    Guarded inv strVNAUuid info (Alloc.begin vSwitchUuid mapVnicSriov) := by
  obtain ⟨first, vxlanDone, more⟩ := bind_ok done
  obtain ⟨second, normalDone, last⟩ := bind_ok more
  obtain ⟨third, bondDone, rfl⟩ := map_ok last
  obtain ⟨m, rfl⟩ := allocKind_idle sriov vxlanDone
  obtain ⟨m', normalBegins, singles⟩ := allocKind_edvs sriov normalDone
  obtain ⟨m'', bondBegins, groups⟩ := allocKind_bond sriov bondDone
  have before := stateBefore_bond vxlanDone normalDone
  have start : stateBefore inv strVNAUuid info (Alloc.begin vSwitchUuid mapVnicSriov) .normal =
      .ok ({ Alloc.begin vSwitchUuid mapVnicSriov with mapVnicSriov := m }, []) := vxlanDone
  have normal := edvsGroups_grows singles
  have bond := bondGroups_grows groups
  rw [preparedGroups_vnics] at normal bond
  have nodup := proper.nodup
  rw [CScheduleInfo.allGroups, List.flatMap_append, List.flatMap_append, List.nodup_append,
    List.nodup_append] at nodup
  obtain ⟨-, ⟨-, -, normalApart⟩, vxlanApart⟩ := nodup
  -- who was set is a vNIC of the last two kinds, without a switch before
  have set : ∀ kind, ∀ group ∈ info.groups kind, ∀ nic ∈ group.setVnicIter,
      nic ∈ (info.groups .normal).flatMap CReqNumInfo.setVnicIter ∨
        (nic ∈ (info.groups .bond).flatMap CReqNumInfo.setVnicIter ∧ vSwitchUuid nic = "") := by
    intro kind group member nic inside
    obtain ⟨grant, only, -⟩ := sound.placed kind group member nic inside
    have chosen : grant ∈ third.1.given.filter fun grant => grant.nic = nic := by
      rw [only]
      exact List.mem_singleton_self grant
    obtain ⟨given, same⟩ := List.mem_filter.mp chosen
    have granted : nic ∈ third.1.granted :=
      of_decide_eq_true same ▸ List.mem_map_of_mem given
    rcases bond.granted nic granted with earlier | ⟨asked, free⟩
    · rcases normal.granted nic earlier with none | ⟨asked, -⟩
      · cases none
      · exact Or.inl asked
    · exact Or.inr ⟨asked, normal.unset nic free⟩
  refine ⟨?_, ?_, ?_, ?_⟩
  · intro _ group member
    refine List.eq_nil_iff_forall_not_mem.mpr fun nic inside => ?_
    have own := List.mem_flatMap.mpr ⟨group, member, inside⟩
    refine vxlanApart nic own nic (List.mem_append.mpr ?_) rfl
    exact (set .vxlan group member nic inside).imp id And.left
  · intro group member nic inside
    rcases set .bond group member nic inside with other | ⟨-, free⟩
    · exact (normalApart nic other nic (List.mem_flatMap.mpr ⟨group, member, inside⟩) rfl).elim
    · exact free
  · intro row member
    rw [singleTakes, kindBegin_ok start normalBegins] at member
    replace member := by simpa only [sriov, if_true] using member
    have written := bond.written.subset (edvsGroups_written singles row member)
    have number := (sound.whole _ written).sriov
    change 0 ≤ row.switchSriovFreeNum - 1 at number
    omega
  · intro s member
    rw [groupOuts, kindBegin_ok before bondBegins] at member
    replace member := by simpa only [sriov, if_true] using member
    exact hasPort_of_whole (sound.whole _ (bondGroups_written groups s member))

/-- A successful allocation is sound if and only if the inventory has what is taken without a
check. -/
theorem getDVSAllocResult_sound_iff (proper : Proper info)
    (done : getDVSAllocResult inv strVNAUuid info (Alloc.begin vSwitchUuid mapVnicSriov) =
      .ok result) : Sound inv info result ↔
        Fits inv strVNAUuid info (Alloc.begin vSwitchUuid mapVnicSriov) := by
  cases sriov : info.isSriov with
  | false => exact sdvs_sound_iff proper sriov done
  | true =>
      constructor
      · intro sound
        have guarded := guarded_of_sound proper sriov done sound
        exact (sriov_sound_iff proper sriov guarded done).mp sound
      · exact fun fits => (sriov_sound_iff proper sriov fits.toGuarded done).mpr fits

end Result

section Shared

/-- A switch without a bond, free once, which a query for VLAN lists as well as one for VXLAN; with
`more` there is a second one, which only and first a query for VLAN lists. -/
def sharedInventory (more : Bool) : Inventory where
  switchFree _ := 1
  portFree _ := 0
  bondValid _ := 0
  members _ := []
  proc input :=
    if input.isBondNic then none
    else if more && !input.isVxlan then some [⟨"vlan", "uplink", ""⟩, ⟨"dvs", "uplink", ""⟩]
    else some [⟨"dvs", "uplink", ""⟩]
  queryDeployByProjectLn _ := some []
  member_unique _ _ _ := fun none => nomatch none
  named input listings answered l member := by
    split at answered
    · cases answered
    · split at answered <;> cases answered <;> revert l <;> decide
  bonded input listings answered bond := by
    rw [if_pos bond] at answered
    cases answered
  unbonded _ _ _ _ _ _ := rfl
  deployed network found answered d member := by
    cases answered
    cases member

/-- A machine with one vNIC in a VXLAN and one in a VLAN. -/
def twoVnics : CScheduleInfo where
  netplane := "plane"
  isLoop := false
  isSriov := false
  isSdn := 0
  vecMTUNum := [⟨1500, "", 1, "", [1], []⟩]
  vecTempSriovMTUNum := []
  vecSriovBondMTUNum := []
  vecVxlanMTUNum := [⟨1500, "", 1, "", [0], []⟩]

theorem twoVnics_proper : Proper twoVnics where
  nodup := by decide
  number kind group member := by
    cases kind <;> revert member <;> revert group <;> decide
  fresh kind group member := by
    cases kind <;> revert member <;> revert group <;> decide
  networks loop := nomatch loop
  noBond _ := rfl

def sharedRow (switchUuid : String) : CDbSchedule :=
  (sharedInventory true).row false ⟨switchUuid, "uplink", ""⟩

/-- The vNIC in the VLAN finds the switch that is listed first as the inventory has it. -/
def twoPlaced (first : String) : Alloc where
  vSwitchUuid := Function.update (Function.update (fun _ => "") 0 "dvs") 1 first
  mapVnicSriov := []
  given := [⟨0, "dvs", none⟩, ⟨1, first, none⟩]
  written := [sdvsRule.take (sharedRow "dvs"), sdvsRule.take (sharedRow first)]

/-- Both kinds have a row of the first switch, but only one of the rows is served. -/
theorem twoVnics_placed : Sound (sharedInventory true) twoVnics (twoPlaced "vlan") := by
  have done : getDVSAllocResult (sharedInventory true) "vna" twoVnics
      (Alloc.begin (fun _ => "") []) = .ok (twoPlaced "vlan") := rfl
  refine (getDVSAllocResult_sound_iff twoVnics_proper done).mpr
    ⟨⟨(nomatch ·), fun _ => (nomatch ·), fun _ => (nomatch ·), fun _ => (nomatch ·)⟩, ?_⟩
  intro kind offer offered _
  cases kind with
  | vxlan =>
      cases List.mem_singleton.mp offered
      exact Or.inl (by decide)
  | normal =>
      cases List.mem_singleton.mp offered
      exact Or.inl (by decide)
  | bond => cases offered

/-- Both vNICs are placed on the switch that is free once. -/
theorem twoVnics_overdrawn : Proper twoVnics ∧
    getDVSAllocResult (sharedInventory false) "vna" twoVnics (Alloc.begin (fun _ => "") []) =
      .ok (twoPlaced "dvs") ∧ ¬ Sound (sharedInventory false) twoVnics (twoPlaced "dvs") := by
  refine ⟨twoVnics_proper, rfl, ?_⟩
  intro sound
  have used := sound.switches "dvs"
  revert used
  decide

end Shared

end Tecs.VnmSchedule
