import Tecs.Vnm.ScheduleInfo

set_option autoImplicit false

/-! What `CountMtus` makes of the vNICs of a machine, group by group. -/

namespace Tecs.VnmSchedule

section Peers

variable {mtuOf : String → ℤ} {reqs held : List VnicReq} {req other : VnicReq}

theorem queue_vxlan_iff : req.queue reqs = .vxlan ↔ req.isVxlan = true := by
  unfold VnicReq.queue VnicReq.isVxlan
  rw [decide_eq_true_eq]
  by_cases vxlan : req.pg.isolateType = .vxlan
  · simp [vxlan]
  · simp only [vxlan, ↓reduceIte, iff_false]
    split <;> decide

theorem queue_normal (plain : ¬ req.isVxlan = true)
    (single : ¬ (req.vnic.isSriov = true ∧ ¬ req.vnic.isLoop = true ∧
      1 < (ofNetwork reqs req).length)) : req.queue reqs = .normal := by
  rw [VnicReq.isVxlan, decide_eq_true_eq] at plain
  rw [VnicReq.queue, if_neg plain, if_neg single]

theorem queue_bond (plain : ¬ req.isVxlan = true) (sriov : req.vnic.isSriov = true)
    (noLoop : ¬ req.vnic.isLoop = true) (several : 1 < (ofNetwork reqs req).length) :
    req.queue reqs = .bond := by
  rw [VnicReq.isVxlan, decide_eq_true_eq] at plain
  rw [VnicReq.queue, if_neg plain, if_pos ⟨sriov, noLoop, several⟩]

theorem category_eq_iff : other.category = req.category ↔
    other.pg.netplaneUuid = req.pg.netplaneUuid ∧ other.vnic.isLoop = req.vnic.isLoop ∧
      other.vnic.isSriov = req.vnic.isSriov ∧ other.pg.isSdn = req.pg.isSdn := by
  simp only [VnicReq.category, Prod.mk.injEq]

theorem ofNetwork_congr (category : other.category = req.category) (key : other.key = req.key) :
    ofNetwork reqs other = ofNetwork reqs req := by
  rw [ofNetwork, ofNetwork, category, key]

/-- The vNICs of a schedule that a vector of it counts by their key. -/
def VnicReq.classOf (reqs : List VnicReq) (req : VnicReq) (p : VnicReq → Bool) : List VnicReq :=
  ((reqs.filter fun other => other.category = req.category).filter p).filter
    fun other => other.key = req.key

theorem classOf_eq (p : VnicReq → Bool) : req.classOf reqs p =
    reqs.filter fun other => other.category = req.category ∧ p other = true ∧
      other.key = req.key := by
  rw [VnicReq.classOf, List.filter_filter, List.filter_filter]
  apply List.filter_congr
  intro other _
  grind

theorem ofNetwork_eq : ofNetwork reqs req = req.classOf reqs fun other => ¬ other.isVxlan := by
  rw [classOf_eq, ofNetwork]
  apply List.filter_congr
  intro other _
  simp [VnicReq.isVxlan]

theorem peers_vxlan (vxlan : req.isVxlan = true) :
    req.peers reqs = req.classOf reqs VnicReq.isVxlan := by
  rw [classOf_eq, VnicReq.peers]
  apply List.filter_congr
  intro other _
  rw [decide_eq_decide, VnicReq.Together, queue_vxlan_iff.mpr vxlan, queue_vxlan_iff,
    if_neg (by simp)]

theorem peers_plain (plain : ¬ req.isVxlan = true)
    (counted : ¬ (req.vnic.isSriov = true ∧ ¬ req.vnic.isLoop = true)) :
    req.peers reqs = req.classOf reqs fun other => ¬ other.isVxlan := by
  rw [classOf_eq, VnicReq.peers]
  apply List.filter_congr
  intro other _
  rw [decide_eq_decide, VnicReq.Together,
    queue_normal plain fun all => counted ⟨all.1, all.2.1⟩,
    if_neg fun all => counted ⟨all.1, all.2.1⟩, decide_eq_true_eq]
  refine and_congr_right fun category => and_congr_left fun _ => ?_
  obtain ⟨-, loop, sriov, -⟩ := category_eq_iff.mp category
  by_cases vxlan : other.isVxlan = true
  · simp [queue_vxlan_iff.mpr vxlan, vxlan]
  · rw [iff_true_right vxlan]
    apply queue_normal vxlan
    rw [loop, sriov]
    exact fun all => counted ⟨all.1, all.2.1⟩

theorem peers_bond (plain : ¬ req.isVxlan = true) (sriov : req.vnic.isSriov = true)
    (noLoop : ¬ req.vnic.isLoop = true) (several : 1 < (ofNetwork reqs req).length) :
    req.peers reqs = req.classOf reqs fun other => ¬ other.isVxlan := by
  rw [classOf_eq, VnicReq.peers]
  apply List.filter_congr
  intro other _
  rw [decide_eq_decide, VnicReq.Together, queue_bond plain sriov noLoop several,
    if_neg (by simp), decide_eq_true_eq]
  refine and_congr_right fun category => and_congr_left fun key => ?_
  obtain ⟨-, sameLoop, sameSriov, -⟩ := category_eq_iff.mp category
  by_cases vxlan : other.isVxlan = true
  · simp [queue_vxlan_iff.mpr vxlan, vxlan]
  · rw [iff_true_right vxlan]
    apply queue_bond vxlan (sameSriov.trans sriov) (sameLoop ▸ noLoop)
    rw [ofNetwork_congr category key]
    exact several

theorem mem_classOf {p : VnicReq → Bool} : other ∈ req.classOf reqs p ↔
    other ∈ reqs ∧ other.category = req.category ∧ p other = true ∧ other.key = req.key := by
  rw [classOf_eq, List.mem_filter, decide_eq_true_eq]

variable {c : String × Bool × Bool × ℤ} {networked : Bool} {groups : List CReqNumInfo}
  {p : VnicReq → Bool}

theorem counted_class {group : CReqNumInfo}
    (groupsOf : Groups mtuOf networked ((reqs.filter fun other => other.category = c).filter p)
      groups) (member : group ∈ groups) (category : req.category = c)
    (same : req.key = group.key networked) :
    group.Counted mtuOf networked (req.classOf reqs p) := by
  have counted := groupsOf.holds group member
  rw [← same, ← category] at counted
  exact counted

theorem vnic_of_group {group : CReqNumInfo}
    (groupsOf : Groups mtuOf networked ((reqs.filter fun other => other.category = c).filter p)
      groups) (member : group ∈ groups) :
    ∃ req ∈ reqs, req.category = c ∧ p req = true ∧ req.key = group.key networked := by
  obtain ⟨req, present, same⟩ := groupsOf.occupied group member
  rw [List.mem_filter, List.mem_filter, decide_eq_true_eq] at present
  exact ⟨req, present.1.1, present.1.2, present.2, same⟩

theorem group_of_vnic
    (groupsOf : Groups mtuOf networked ((reqs.filter fun other => other.category = c).filter p)
      groups) (present : req ∈ reqs) (category : req.category = c) (kept : p req = true) :
    ∃ group ∈ groups, req.key = group.key networked := by
  obtain ⟨group, member, same⟩ := groupsOf.whole req
    (List.mem_filter.mpr ⟨List.mem_filter.mpr ⟨present, decide_eq_true category⟩, kept⟩)
  exact ⟨group, member, same.symm⟩

theorem of_counted {group : CReqNumInfo}
    (counted : group.Counted mtuOf networked (req.classOf reqs p)) (present : req ∈ reqs)
    (kept : p req = true) (peers : req.peers reqs = req.classOf reqs p) :
    group.Of reqs req where
  mtu := counted.mtu req (mem_classOf.mpr ⟨present, rfl, kept, rfl⟩)
  vnics := by
    rw [counted.vnics, peers]
  number := by
    rw [counted.number, peers]
  fresh := counted.fresh

end Peers

section Singles

variable {mtuOf : String → ℤ} {reqs : List VnicReq} {req other : VnicReq}
  {c : String × Bool × Bool × ℤ} {temp : List CReqNumInfo}

/-- The groups of one vNIC of the networks that are counted, by their MTU. -/
structure CReqNumInfo.Merged (held : List CReqNumInfo) (group : CReqNumInfo) : Prop where
  vnics : group.setVnicIter = held.flatMap CReqNumInfo.setVnicIter
  number : group.nSourceNum = held.length
  fresh : group.strDeployedDvs = "" ∧ group.vecSchResult = []

theorem filled_mergeSingle (singles : List CReqNumInfo) :
    Buckets.Filled CReqNumInfo.nMTU CReqNumInfo.nMTU CReqNumInfo.Merged singles
      (singles.foldl mergeSingle []) := by
  induction singles using List.reverseRecOn with
  | nil => exact Buckets.filled_nil
  | append_singleton singles single ih =>
      rw [List.foldl_append, List.foldl_cons, List.foldl_nil]
      apply Buckets.Filled.put ih
      · intro group _
        rfl
      · intro group
        rfl
      · rfl
      · exact ⟨by simp [CReqNumInfo.insertVnics, CReqNumInfo.ofMTU], rfl, rfl, rfl⟩
      · intro held group merged same
        refine ⟨?_, ?_, merged.fresh⟩
        · simp [CReqNumInfo.insertVnics, merged.vnics]
        · simp [CReqNumInfo.insertVnics, merged.number]

/-- The group of the one vNIC of its network. -/
theorem single_vnic {single : CReqNumInfo}
    (groupsOf : Groups mtuOf true ((reqs.filter fun other => other.category = c).filter
      fun req => ¬ req.isVxlan) temp)
    (member : single ∈ temp) (few : ¬ single.nSourceNum > 1) :
    ∃ req ∈ reqs, req.category = c ∧ ¬ req.isVxlan = true ∧ req.key = single.key true ∧
      (ofNetwork reqs req).length ≤ 1 ∧ single.setVnicIter = [req.iter] ∧
      single.nMTU = req.pg.mtu := by
  obtain ⟨req, present, category, plain, same⟩ := vnic_of_group groupsOf member
  have counted := counted_class groupsOf member category same
  have itself : req ∈ req.classOf reqs fun req => ¬ req.isVxlan :=
    mem_classOf.mpr ⟨present, rfl, plain, rfl⟩
  have number := counted.number
  have length : (req.classOf reqs fun req => ¬ req.isVxlan).length = 1 := by
    have positive := List.length_pos_of_mem itself
    omega
  obtain ⟨only, alone⟩ := List.length_eq_one_iff.mp length
  have vnics := counted.vnics
  rw [alone, List.mem_singleton] at itself
  rw [alone, ← itself] at vnics
  rw [decide_eq_true_eq] at plain
  refine ⟨req, present, category, plain, same, ?_, vnics, ?_⟩
  · rw [ofNetwork_eq, length]
  · exact counted.mtu req (mem_classOf.mpr ⟨present, rfl, decide_eq_true plain, rfl⟩)

theorem length_flatMap_one {α β : Type} {f : α → List β} {list : List α}
    (one : ∀ a ∈ list, (f a).length = 1) : (list.flatMap f).length = list.length := by
  induction list with
  | nil => rfl
  | cons a rest ih =>
      rw [List.forall_mem_cons] at one
      rw [List.flatMap_cons, List.length_append, one.1, ih one.2, List.length_cons]
      omega

theorem single_of_vnic
    (groupsOf : Groups mtuOf true ((reqs.filter fun other => other.category = c).filter
      fun req => ¬ req.isVxlan) temp)
    (present : req ∈ reqs) (category : req.category = c) (plain : ¬ req.isVxlan = true)
    (alone : (ofNetwork reqs req).length ≤ 1) :
    ∃ single ∈ temp, ¬ single.nSourceNum > 1 ∧ single.nMTU = req.pg.mtu ∧
      req.iter ∈ single.setVnicIter := by
  obtain ⟨single, member, same⟩ := group_of_vnic groupsOf present category
    (decide_eq_true plain)
  have counted := counted_class groupsOf member category same
  have itself := (mem_classOf (p := fun req => ¬ req.isVxlan)).mpr
    ⟨present, rfl, decide_eq_true plain, rfl⟩
  refine ⟨single, member, ?_, counted.mtu req itself, ?_⟩
  · rw [ofNetwork_eq] at alone
    rw [counted.number]
    omega
  · rw [counted.vnics]
    exact List.mem_map_of_mem itself

theorem iter_inj (places : (reqs.map VnicReq.iter).Nodup) (left : req ∈ reqs)
    (right : other ∈ reqs) (same : req.iter = other.iter) : req = other :=
  List.inj_on_of_nodup_map places left right same

theorem singles_apart (places : (reqs.map VnicReq.iter).Nodup)
    (groupsOf : Groups mtuOf true ((reqs.filter fun other => other.category = c).filter
      fun req => ¬ req.isVxlan) temp) (held : List CReqNumInfo)
    (sub : held.Sublist (temp.filter fun group => ¬ group.nSourceNum > 1)) :
    (held.flatMap CReqNumInfo.setVnicIter).Nodup := by
  have inside : ∀ single ∈ held, single ∈ temp ∧ ¬ single.nSourceNum > 1 := by
    intro single member
    have found := sub.subset member
    rw [List.mem_filter, decide_eq_true_eq] at found
    exact found
  rw [List.nodup_flatMap]
  constructor
  · intro single member
    obtain ⟨member, few⟩ := inside single member
    obtain ⟨req, -, -, -, -, -, vnics, -⟩ := single_vnic groupsOf member few
    rw [vnics]
    exact List.nodup_singleton _
  · have apart : temp.Pairwise fun a b => a.key true ≠ b.key true :=
      List.pairwise_map.mp groupsOf.apart
    have apartHeld := (apart.sublist List.filter_sublist).sublist sub
    refine apartHeld.imp_of_mem ?_
    intro a b left right differ i inLeft inRight
    obtain ⟨left, fewLeft⟩ := inside a left
    obtain ⟨right, fewRight⟩ := inside b right
    obtain ⟨x, xIn, -, -, xKey, -, xVnics, -⟩ := single_vnic groupsOf left fewLeft
    obtain ⟨y, yIn, -, -, yKey, -, yVnics, -⟩ := single_vnic groupsOf right fewRight
    rw [xVnics, List.mem_singleton] at inLeft
    rw [yVnics, List.mem_singleton] at inRight
    have equal := iter_inj places xIn yIn (inLeft.symm.trans inRight)
    exact differ (xKey.symm.trans (equal ▸ yKey))

theorem alone_of_queue (sriov : req.vnic.isSriov = true) (noLoop : ¬ req.vnic.isLoop = true)
    (normal : req.queue reqs = .normal) :
    ¬ req.isVxlan = true ∧ (ofNetwork reqs req).length ≤ 1 := by
  have plain : ¬ req.isVxlan = true := by
    intro vxlan
    rw [queue_vxlan_iff.mpr vxlan] at normal
    cases normal
  refine ⟨plain, ?_⟩
  by_contra several
  rw [queue_bond plain sriov noLoop (by omega)] at normal
  cases normal

theorem queue_of_alone (plain : ¬ req.isVxlan = true) (alone : (ofNetwork reqs req).length ≤ 1) :
    req.queue reqs = .normal :=
  queue_normal plain fun all => by omega

variable (places : (reqs.map VnicReq.iter).Nodup)
  (groupsOf : Groups mtuOf true ((reqs.filter fun other => other.category = c).filter
    fun req => ¬ req.isVxlan) temp)
  (flags : ∀ req : VnicReq, req.category = c →
    req.vnic.isSriov = true ∧ ¬ req.vnic.isLoop = true)
include places groupsOf flags

theorem merged_of {group : CReqNumInfo}
    (member : group ∈ (temp.filter fun group => ¬ group.nSourceNum > 1).foldl mergeSingle [])
    (category : req.category = c) (normal : req.queue reqs = .normal)
    (mtu : group.nMTU = req.pg.mtu) : group.Of reqs req := by
  have merged := (filled_mergeSingle _).holds group member
  have held : ∀ single ∈ (temp.filter fun group => ¬ group.nSourceNum > 1).filter
      (fun single => single.nMTU = group.nMTU), single ∈ temp ∧ ¬ single.nSourceNum > 1 ∧
        single.nMTU = req.pg.mtu := by
    intro single inside
    rw [List.mem_filter, List.mem_filter, decide_eq_true_eq, decide_eq_true_eq, mtu] at inside
    exact ⟨inside.1.1, inside.1.2, inside.2⟩
  have perm : group.setVnicIter.Perm ((req.peers reqs).map VnicReq.iter) := by
    rw [merged.vnics]
    have left := singles_apart places groupsOf _ (List.filter_sublist
      (p := fun single => decide (single.nMTU = group.nMTU)))
    have right : ((req.peers reqs).map VnicReq.iter).Nodup :=
      places.sublist (List.filter_sublist.map _)
    rw [List.perm_ext_iff_of_nodup left right]
    intro i
    rw [List.mem_flatMap, List.mem_map]
    constructor
    · rintro ⟨single, inside, there⟩
      obtain ⟨inTemp, few, sameMtu⟩ := held single inside
      obtain ⟨other, present, otherCategory, plain, -, alone, vnics, otherMtu⟩ :=
        single_vnic groupsOf inTemp few
      rw [vnics, List.mem_singleton] at there
      refine ⟨other, List.mem_filter.mpr ⟨present, decide_eq_true ?_⟩, there.symm⟩
      rw [VnicReq.Together, normal,
        if_pos ⟨(flags req category).1, (flags req category).2, rfl⟩]
      exact ⟨otherCategory.trans category.symm, queue_of_alone plain alone,
        otherMtu.symm.trans sameMtu⟩
    · rintro ⟨other, peer, there⟩
      rw [VnicReq.peers, List.mem_filter, decide_eq_true_eq, VnicReq.Together, normal,
        if_pos ⟨(flags req category).1, (flags req category).2, rfl⟩] at peer
      obtain ⟨present, otherCategory, otherNormal, otherMtu⟩ := peer
      have inClass := otherCategory.trans category
      obtain ⟨plain, alone⟩ := alone_of_queue (flags other inClass).1 (flags other inClass).2
        otherNormal
      obtain ⟨single, inTemp, few, sameMtu, found⟩ :=
        single_of_vnic groupsOf present inClass plain alone
      refine ⟨single, List.mem_filter.mpr ⟨List.mem_filter.mpr ⟨inTemp, decide_eq_true few⟩,
        decide_eq_true ?_⟩, there ▸ found⟩
      rw [sameMtu, otherMtu, mtu]
  refine ⟨mtu, perm, ?_, merged.fresh⟩
  have lengths := perm.length_eq
  rw [List.length_map] at lengths
  rw [merged.number, ← lengths, merged.vnics, length_flatMap_one]
  intro single inside
  obtain ⟨inTemp, few, -⟩ := held single inside
  obtain ⟨_, -, -, -, -, -, vnics, -⟩ := single_vnic groupsOf inTemp few
  rw [vnics, List.length_singleton]

end Singles

section Groups

variable {mtuOf : String → ℤ} {reqs : List VnicReq} {info : CScheduleInfo}
  (places : (reqs.map VnicReq.iter).Nodup)
  (counting : info.Counting mtuOf (reqs.filter fun req => req.category = info.category))

theorem flags_of_category {req : VnicReq} (category : req.category = info.category) :
    req.vnic.isLoop = info.isLoop ∧ req.vnic.isSriov = info.isSriov := by
  obtain ⟨-, loop, sriov, -⟩ := category_iff.mp category.symm
  exact ⟨loop.symm, sriov.symm⟩

theorem cout_vxlan : (coutSriovReqInfo info).vecVxlanMTUNum = info.vecVxlanMTUNum := by
  unfold coutSriovReqInfo
  split
  · rfl
  · split <;> rfl

/-- Without the second summing up the vector of the others is as it was counted. -/
theorem cout_plain (counted : ¬ (info.isSriov = true ∧ ¬ info.isLoop = true))
    (noBond : info.vecSriovBondMTUNum = []) :
    (coutSriovReqInfo info).vecMTUNum =
      (if info.isSriov then info.vecTempSriovMTUNum else info.vecMTUNum) ∧
    (coutSriovReqInfo info).vecSriovBondMTUNum = [] := by
  by_cases sriov : info.isSriov = true
  · have loop : info.isLoop = true := by
      by_contra loop
      exact counted ⟨sriov, loop⟩
    simp [coutSriovReqInfo, sriov, loop, noBond]
  · simp [coutSriovReqInfo, sriov, noBond]

theorem cout_sriov (sriov : info.isSriov = true) (noLoop : ¬ info.isLoop = true)
    (idle : info.vecMTUNum = []) (noBond : info.vecSriovBondMTUNum = []) :
    (coutSriovReqInfo info).vecMTUNum =
      (info.vecTempSriovMTUNum.filter fun group => ¬ group.nSourceNum > 1).foldl
        mergeSingle [] ∧
    (coutSriovReqInfo info).vecSriovBondMTUNum =
      info.vecTempSriovMTUNum.filter fun group => group.nSourceNum > 1 := by
  simp [coutSriovReqInfo, sriov, noLoop, idle, noBond]

include places counting

/-- Every group of a schedule is that of one of the vNICs that it is queried for. -/
theorem cout_vnic (q : QueryDbSchType) {group : CReqNumInfo}
    (member : group ∈ (coutSriovReqInfo info).groups q) :
    ∃ req ∈ reqs, req.category = info.category ∧ req.queue reqs = q ∧ group.Of reqs req := by
  cases q with
  | vxlan =>
      rw [CScheduleInfo.groups, cout_vxlan] at member
      obtain ⟨req, present, category, vxlan, same⟩ := vnic_of_group counting.vxlan member
      exact ⟨req, present, category, queue_vxlan_iff.mpr vxlan,
        of_counted (counted_class counting.vxlan member category same) present vxlan
          (peers_vxlan vxlan)⟩
  | normal =>
      rw [CScheduleInfo.groups] at member
      by_cases counted : info.isSriov = true ∧ ¬ info.isLoop = true
      · have plain := counting.plain
        have idle := counting.idle
        rw [if_pos counted.1] at plain idle
        rw [(cout_sriov counted.1 counted.2 idle counting.noBond).1] at member
        rw [counted.1, Bool.or_true] at plain
        have flags : ∀ req : VnicReq, req.category = info.category →
            req.vnic.isSriov = true ∧ ¬ req.vnic.isLoop = true := by
          intro req category
          obtain ⟨loop, sriov⟩ := flags_of_category category
          exact ⟨sriov.trans counted.1, loop ▸ counted.2⟩
        obtain ⟨single, inside, mtu⟩ := (filled_mergeSingle _).occupied group member
        rw [List.mem_filter, decide_eq_true_eq] at inside
        obtain ⟨req, present, category, plainReq, -, alone, -, sameMtu⟩ :=
          single_vnic plain inside.1 inside.2
        have normal := queue_of_alone plainReq alone
        exact ⟨req, present, category, normal, merged_of places plain flags member category
          normal (mtu.symm.trans sameMtu)⟩
      · rw [(cout_plain counted counting.noBond).1] at member
        obtain ⟨req, present, category, plain, same⟩ := vnic_of_group counting.plain member
        obtain ⟨loop, sriov⟩ := flags_of_category category
        have counting := counted_class counting.plain member category same
        rw [decide_eq_true_eq] at plain
        have noSecond : ¬ (req.vnic.isSriov = true ∧ ¬ req.vnic.isLoop = true) := by
          rw [loop, sriov]
          exact counted
        exact ⟨req, present, category, queue_normal plain fun all => noSecond ⟨all.1, all.2.1⟩,
          of_counted counting present (decide_eq_true plain) (peers_plain plain noSecond)⟩
  | bond =>
      rw [CScheduleInfo.groups] at member
      by_cases counted : info.isSriov = true ∧ ¬ info.isLoop = true
      · have plain := counting.plain
        have idle := counting.idle
        rw [if_pos counted.1] at plain idle
        rw [(cout_sriov counted.1 counted.2 idle counting.noBond).2, List.mem_filter,
          decide_eq_true_eq] at member
        obtain ⟨req, present, category, plainReq, same⟩ := vnic_of_group plain member.1
        have inClass := counted_class plain member.1 category same
        rw [decide_eq_true_eq] at plainReq
        obtain ⟨loop, sriov⟩ := flags_of_category category
        have several : 1 < (ofNetwork reqs req).length := by
          have number := inClass.number
          have more := member.2
          rw [ofNetwork_eq]
          omega
        have noLoop : ¬ req.vnic.isLoop = true := loop ▸ counted.2
        exact ⟨req, present, category,
          queue_bond plainReq (sriov.trans counted.1) noLoop several,
          of_counted inClass present (decide_eq_true plainReq)
            (peers_bond plainReq (sriov.trans counted.1) noLoop several)⟩
      · rw [(cout_plain counted counting.noBond).2] at member
        cases member

/-- Every vNIC of a schedule has its group in the vector that it is queried with. -/
theorem cout_group {req : VnicReq} (present : req ∈ reqs)
    (category : req.category = info.category) :
    ∃ group ∈ (coutSriovReqInfo info).groups (req.queue reqs), group.Of reqs req := by
  obtain ⟨loop, sriov⟩ := flags_of_category category
  by_cases vxlan : req.isVxlan = true
  · obtain ⟨group, member, same⟩ := group_of_vnic counting.vxlan present category vxlan
    rw [queue_vxlan_iff.mpr vxlan, CScheduleInfo.groups, cout_vxlan]
    exact ⟨group, member, of_counted (counted_class counting.vxlan member category same) present
      vxlan (peers_vxlan vxlan)⟩
  obtain ⟨group, member, same⟩ := group_of_vnic counting.plain present category
    (decide_eq_true vxlan)
  have counted := counted_class counting.plain member category same
  by_cases second : info.isSriov = true ∧ ¬ info.isLoop = true
  · have plain := counting.plain
    have idle := counting.idle
    rw [if_pos second.1] at plain idle member
    obtain ⟨normalEq, bondEq⟩ := cout_sriov second.1 second.2 idle counting.noBond
    have isSriov : req.vnic.isSriov = true := sriov.trans second.1
    have noLoop : ¬ req.vnic.isLoop = true := loop ▸ second.2
    by_cases several : 1 < (ofNetwork reqs req).length
    · rw [queue_bond vxlan isSriov noLoop several, CScheduleInfo.groups, bondEq]
      refine ⟨group, List.mem_filter.mpr ⟨member, decide_eq_true ?_⟩, of_counted counted present
        (decide_eq_true vxlan) (peers_bond vxlan isSriov noLoop several)⟩
      have number := counted.number
      rw [ofNetwork_eq] at several
      omega
    · have normal := queue_of_alone vxlan (Nat.not_lt.mp several)
      rw [second.1, Bool.or_true] at plain
      have flags : ∀ other : VnicReq, other.category = info.category →
          other.vnic.isSriov = true ∧ ¬ other.vnic.isLoop = true := by
        intro other inClass
        obtain ⟨otherLoop, otherSriov⟩ := flags_of_category inClass
        exact ⟨otherSriov.trans second.1, otherLoop ▸ second.2⟩
      obtain ⟨single, inTemp, few, sameMtu, -⟩ :=
        single_of_vnic plain present category vxlan (Nat.not_lt.mp several)
      obtain ⟨merged, inside, mtu⟩ := (filled_mergeSingle
        (info.vecTempSriovMTUNum.filter fun group => ¬ group.nSourceNum > 1)).whole single
          (List.mem_filter.mpr ⟨inTemp, decide_eq_true few⟩)
      rw [normal, CScheduleInfo.groups, normalEq]
      exact ⟨merged, inside, merged_of places plain flags inside category normal
        (mtu.trans sameMtu)⟩
  · have noSecond : ¬ (req.vnic.isSriov = true ∧ ¬ req.vnic.isLoop = true) := by
      rw [loop, sriov]
      exact second
    rw [queue_normal vxlan fun all => noSecond ⟨all.1, all.2.1⟩, CScheduleInfo.groups,
      (cout_plain second counting.noBond).1]
    exact ⟨group, member, of_counted counted present (decide_eq_true vxlan)
      (peers_plain vxlan noSecond)⟩

end Groups

section Counted

variable {getPgByLogicNetwork : String → Option CPortGroup} {iter : ℕ}
  {vecVnicMem : List CVNetVnicMem} {reqs : List VnicReq}

theorem vnicReqs_cons {vnic : CVNetVnicMem}
    (found : vnicReqs getPgByLogicNetwork iter (vnic :: vecVnicMem) = some reqs) :
    ∃ pg rest, getPgByLogicNetwork vnic.logicNetworkUuid = some pg ∧
      vnicReqs getPgByLogicNetwork (iter + 1) vecVnicMem = some rest ∧
      reqs = ⟨iter, vnic, pg⟩ :: rest := by
  rw [vnicReqs, Option.bind_eq_bind, Option.bind_eq_some_iff] at found
  obtain ⟨pg, group, found⟩ := found
  rw [Option.bind_eq_bind, Option.bind_eq_some_iff] at found
  obtain ⟨rest, others, same⟩ := found
  exact ⟨pg, rest, group, others, (Option.some.inj same).symm⟩

theorem vnicReqs_known (found : vnicReqs getPgByLogicNetwork iter vecVnicMem = some reqs) :
    ∀ req ∈ reqs, getPgByLogicNetwork req.network = some req.pg := by
  induction vecVnicMem generalizing iter reqs with
  | nil =>
      cases found
      exact fun req none => nomatch none
  | cons vnic rest ih =>
      obtain ⟨pg, others, group, later, rfl⟩ := vnicReqs_cons found
      exact List.forall_mem_cons.mpr ⟨group, ih later⟩

theorem vnicReqs_iters (found : vnicReqs getPgByLogicNetwork iter vecVnicMem = some reqs) :
    reqs.map VnicReq.iter = List.range' iter vecVnicMem.length := by
  induction vecVnicMem generalizing iter reqs with
  | nil =>
      cases found
      rfl
  | cons vnic rest ih =>
      obtain ⟨pg, others, group, later, rfl⟩ := vnicReqs_cons found
      rw [List.map_cons, ih later, List.length_cons, List.range'_succ]

theorem vnicReqs_places (found : vnicReqs getPgByLogicNetwork iter vecVnicMem = some reqs) :
    (reqs.map VnicReq.iter).Nodup := by
  rw [vnicReqs_iters found]
  exact List.nodup_range'

/-- What `CountMtus` counts: each group is that of one of the vNICs, and each vNIC has one in the
schedule of its category. -/
theorem countVnics_groups (found : vnicReqs getPgByLogicNetwork iter vecVnicMem = some reqs) :
    (∀ info ∈ countVnics reqs, ∀ q, ∀ group ∈ info.groups q, ∃ req ∈ reqs,
      req.category = info.category ∧ req.queue reqs = q ∧ group.Of reqs req) ∧
    (∀ info ∈ countVnics reqs, ∀ req ∈ reqs, req.category = info.category →
      ∃ group ∈ info.groups (req.queue reqs), group.Of reqs req) ∧
    ∀ req ∈ reqs, ∃ info ∈ countVnics reqs, req.category = info.category := by
  have places := vnicReqs_places found
  have known := vnicReqs_known found
  have filled := @filled_addVnics
    (fun network => (getPgByLogicNetwork network).elim 0 CPortGroup.mtu) reqs (by
      intro req present
      rw [Known, known req present, Option.elim_some])
  have category : ∀ info : CScheduleInfo, (coutSriovReqInfo info).category = info.category := by
    intro info
    unfold coutSriovReqInfo
    split
    · rfl
    · split <;> rfl
  refine ⟨?_, ?_, ?_⟩
  · intro info member q group inside
    obtain ⟨counted, there, rfl⟩ := List.mem_map.mp member
    rw [category]
    exact cout_vnic places (filled.holds counted there) q inside
  · intro info member req present same
    obtain ⟨counted, there, rfl⟩ := List.mem_map.mp member
    rw [category] at same
    exact cout_group places (filled.holds counted there) present same
  · intro req present
    obtain ⟨counted, there, same⟩ := filled.whole req present
    refine ⟨coutSriovReqInfo counted, List.mem_map_of_mem there, ?_⟩
    rw [category, same]

end Counted

end Tecs.VnmSchedule
