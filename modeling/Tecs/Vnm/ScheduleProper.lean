import Tecs.Vnm.ScheduleCount
import Tecs.Vnm.ScheduleSound

set_option autoImplicit false

/-! The groups that `CountMtus` makes are such as the allocation needs. -/

namespace Tecs.VnmSchedule

section Groups

variable {mtuOf : String → ℤ} {held : List VnicReq} {networked : Bool}
  {groups : List CReqNumInfo} {info : CScheduleInfo}

theorem groups_vnics (groupsOf : Groups mtuOf networked held groups) :
    (groups.flatMap CReqNumInfo.setVnicIter).Perm (held.map VnicReq.iter) := by
  have each : groups.flatMap CReqNumInfo.setVnicIter =
      (groups.flatMap fun group =>
        held.filter (VnicReq.key · = group.key networked)).map VnicReq.iter := by
    rw [List.map_flatMap]
    exact List.flatMap_congr fun group member => (groupsOf.holds group member).vnics
  rw [each]
  exact (Buckets.Filled.perm groupsOf).map VnicReq.iter

theorem mergeSingle_vnics (singles : List CReqNumInfo) :
    ((singles.foldl mergeSingle []).flatMap CReqNumInfo.setVnicIter).Perm
      (singles.flatMap CReqNumInfo.setVnicIter) := by
  have filled := filled_mergeSingle singles
  have each : (singles.foldl mergeSingle []).flatMap CReqNumInfo.setVnicIter =
      ((singles.foldl mergeSingle []).flatMap fun group =>
        singles.filter (CReqNumInfo.nMTU · = group.nMTU)).flatMap CReqNumInfo.setVnicIter := by
    rw [List.flatMap_assoc]
    exact List.flatMap_congr fun group member => (filled.holds group member).vnics
  rw [each]
  exact filled.perm.flatMap_right _

/-- Every vNIC that was counted is in one group of one kind. -/
theorem cout_vnics (counting : info.Counting mtuOf held) :
    ((coutSriovReqInfo info).allGroups.flatMap CReqNumInfo.setVnicIter).Perm
      (held.map VnicReq.iter) := by
  have vxlan := groups_vnics counting.vxlan
  have plain := groups_vnics counting.plain
  have both : (held.filter VnicReq.isVxlan ++ held.filter fun req => ¬ req.isVxlan).Perm held := by
    have split := List.filter_append_perm VnicReq.isVxlan held
    simpa only [Bool.not_eq_true, Bool.decide_eq_false] using split
  have others : (((coutSriovReqInfo info).vecMTUNum ++
      (coutSriovReqInfo info).vecSriovBondMTUNum).flatMap CReqNumInfo.setVnicIter).Perm
        ((held.filter fun req => ¬ req.isVxlan).map VnicReq.iter) := by
    refine List.Perm.trans ?_ plain
    by_cases counted : info.isSriov = true ∧ ¬ info.isLoop = true
    · have idle := counting.idle
      rw [if_pos counted.1] at idle ⊢
      obtain ⟨normal, bond⟩ := cout_sriov counted.1 counted.2 idle counting.noBond
      rw [normal, bond, List.flatMap_append]
      refine ((mergeSingle_vnics _).append_right _).trans ?_
      rw [← List.flatMap_append]
      refine List.Perm.flatMap_right _ ?_
      have split := List.filter_append_perm (fun group => decide (group.nSourceNum > 1))
        info.vecTempSriovMTUNum
      refine List.perm_append_comm.trans ?_
      simpa only [decide_not] using split
    · obtain ⟨normal, bond⟩ := cout_plain counted counting.noBond
      rw [normal, bond, List.append_nil]
  have all := (vxlan.append others).trans
    ((List.map_append (f := VnicReq.iter)) ▸ both.map VnicReq.iter)
  rw [← List.flatMap_append, ← @cout_vxlan info] at all
  exact all

theorem groups_networks (groupsOf : Groups mtuOf true held groups) :
    (groups.map CReqNumInfo.strLogicNetwork).Nodup := by
  have keys : groups.map (CReqNumInfo.key true) =
      (groups.map CReqNumInfo.strLogicNetwork).map fun network => (network, (0 : ℤ)) := by
    rw [List.map_map]
    rfl
  have apart := groupsOf.apart
  rw [keys] at apart
  exact apart.of_map _

/-- A group of a network is there because of a vNIC of it. -/
theorem network_vnic (groupsOf : Groups mtuOf true held groups)
    (flags : ∀ req ∈ held, (req.vnic.isLoop || req.vnic.isSriov) = true) {group : CReqNumInfo}
    (member : group ∈ groups) : ∃ req ∈ held, req.network = group.strLogicNetwork := by
  obtain ⟨req, present, same⟩ := groupsOf.occupied group member
  refine ⟨req, present, ?_⟩
  rw [VnicReq.key, if_pos (flags req present), CReqNumInfo.key, if_pos rfl] at same
  exact congrArg Prod.fst same

end Groups

section Counted

variable {getPgByLogicNetwork : String → Option CPortGroup} {iter : ℕ}
  {vecVnicMem : List CVNetVnicMem} {reqs : List VnicReq} {info : CScheduleInfo}
  {mtuOf : String → ℤ}

theorem cout_flags (info : CScheduleInfo) : (coutSriovReqInfo info).isLoop = info.isLoop := by
  unfold coutSriovReqInfo
  split
  · rfl
  · split <;> rfl

/-- A logic network has one isolation, so that its loop ports are in one group. -/
theorem cout_networks (known : ∀ req ∈ reqs, getPgByLogicNetwork req.network = some req.pg)
    (counting : info.Counting mtuOf (reqs.filter fun req => req.category = info.category))
    (loop : info.isLoop = true) :
    ((coutSriovReqInfo info).allGroups.map CReqNumInfo.strLogicNetwork).Nodup := by
  have noSecond : ¬ (info.isSriov = true ∧ ¬ info.isLoop = true) := fun both => both.2 loop
  obtain ⟨normal, bond⟩ := cout_plain noSecond counting.noBond
  have vxlan := counting.vxlan
  have plain := counting.plain
  rw [loop, Bool.true_or] at vxlan plain
  change (((coutSriovReqInfo info).vecVxlanMTUNum ++ ((coutSriovReqInfo info).vecMTUNum ++
    (coutSriovReqInfo info).vecSriovBondMTUNum)).map CReqNumInfo.strLogicNetwork).Nodup
  rw [cout_vxlan, normal, bond, List.append_nil, List.map_append, List.nodup_append]
  refine ⟨groups_networks vxlan, groups_networks plain, ?_⟩
  intro network left other right same
  subst same
  obtain ⟨group, member, rfl⟩ := List.mem_map.mp left
  obtain ⟨another, there, equal⟩ := List.mem_map.mp right
  have flags : ∀ req ∈ reqs.filter (fun req => req.category = info.category),
      (req.vnic.isLoop || req.vnic.isSriov) = true := by
    intro req inside
    have category := of_decide_eq_true (List.mem_filter.mp inside).2
    rw [(flags_of_category category).1, loop, Bool.true_or]
  obtain ⟨req, inside, first⟩ := network_vnic vxlan
    (fun req inside => flags req (List.mem_filter.mp inside).1) member
  obtain ⟨req', inside', second⟩ := network_vnic plain
    (fun req inside => flags req (List.mem_filter.mp inside).1) there
  rw [List.mem_filter, List.mem_filter] at inside inside'
  have pg := known req inside.1.1
  have pg' := known req' inside'.1.1
  rw [first] at pg
  rw [second, equal, pg] at pg'
  have isVxlan := inside.2
  have isPlain := of_decide_eq_true inside'.2
  rw [VnicReq.isVxlan, ← Option.some.inj pg'] at isPlain
  exact isPlain isVxlan

/-- What `CountMtus` counts meets what the allocation needs. -/
theorem countVnics_proper (found : vnicReqs getPgByLogicNetwork iter vecVnicMem = some reqs) :
    ∀ info ∈ countVnics reqs, Proper info := by
  intro info member
  have each := (countVnics_groups found).1 info member
  have known := vnicReqs_known found
  have filled := @filled_addVnics
    (fun network => (getPgByLogicNetwork network).elim 0 CPortGroup.mtu) reqs (by
      intro req present
      rw [Known, known req present, Option.elim_some])
  obtain ⟨counted, there, rfl⟩ := List.mem_map.mp member
  have counting := filled.holds counted there
  refine ⟨?_, ?_, ?_, ?_, ?_⟩
  · refine (cout_vnics counting).nodup_iff.mpr ?_
    exact (vnicReqs_places found).sublist (List.filter_sublist.map VnicReq.iter)
  · intro kind group inside
    obtain ⟨req, -, -, -, of⟩ := each kind group inside
    rw [of.number, of.vnics.length_eq, List.length_map]
  · intro kind group inside
    obtain ⟨req, -, -, -, of⟩ := each kind group inside
    exact of.fresh
  · intro loop
    exact cout_networks known counting (cout_flags counted ▸ loop)
  · intro loop
    rw [cout_flags] at loop
    exact (cout_plain (fun both => both.2 loop) counting.noBond).2

/-- The order of the groups does not matter. -/
theorem Proper.sortInfo (std : StdSort) (proper : Proper info)
    (sorts : ∀ kind, (std.sort (info.groups kind)).Perm (info.groups kind)) :
    Proper (std.sortInfo info) := by
  have groups : ∀ kind, ((std.sortInfo info).groups kind).Perm (info.groups kind) := by
    intro kind
    cases kind with
    | vxlan => exact sorts .vxlan
    | normal => exact sorts .normal
    | bond => exact sorts .bond
  have all : (std.sortInfo info).allGroups.Perm info.allGroups :=
    (groups .vxlan).append ((groups .normal).append (groups .bond))
  refine ⟨?_, ?_, ?_, ?_, ?_⟩
  · exact (all.flatMap_right _).nodup_iff.mpr proper.nodup
  · exact fun kind group member => proper.number kind group ((groups kind).subset member)
  · exact fun kind group member => proper.fresh kind group ((groups kind).subset member)
  · exact fun loop => (all.map _).nodup_iff.mpr (proper.networks loop)
  · intro loop
    have none := groups .bond
    change List.Perm _ info.vecSriovBondMTUNum at none
    rw [proper.noBond loop] at none
    exact none.eq_nil

end Counted

end Tecs.VnmSchedule
