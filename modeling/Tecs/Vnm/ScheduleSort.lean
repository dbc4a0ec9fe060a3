import Tecs.Vnm.ScheduleCount

set_option autoImplicit false

/-! The order of the groups of vNICs, which each vector of them is sorted by. -/

namespace Tecs.VnmSchedule

section Orders

variable {α : Type} {lt : α → α → Prop}

theorem IsStrictWeakOrder.not_lt_trans (order : IsStrictWeakOrder α lt) {a b c : α}
    (ab : ¬ lt b a) (bc : ¬ lt c b) : ¬ lt c a := by
  intro ca
  by_cases forward : lt a b
  · exact bc (order.trans c a b ca forward)
  · by_cases back : lt b c
    · exact ab (order.trans b c a back ca)
    · exact (order.incomp_trans a b c ⟨forward, ab⟩ ⟨back, bc⟩).2 ca

/-- An insertion sort with the comparison meets what is asked of a sort. -/
theorem pairwise_insertionSort_strictWeak [DecidableRel lt] {list : List α}
    (order : IsStrictWeakOrder { a // a ∈ list } fun a b => lt a b) :
    (list.insertionSort fun a b => ¬ lt b a).Pairwise fun a b => ¬ lt b a := by
  have total : Std.Total fun a b : { a // a ∈ list } => ¬ lt b a := by
    refine ⟨fun a b => ?_⟩
    by_cases forward : lt b a
    · exact Or.inr fun back => order.irrefl a (order.trans a b a back forward)
    · exact Or.inl forward
  have trans : IsTrans { a // a ∈ list } fun a b => ¬ lt b a :=
    ⟨fun a b c ab bc => IsStrictWeakOrder.not_lt_trans order ab bc⟩
  have sorted := List.pairwise_insertionSort
    (fun a b : { a // a ∈ list } => ¬ lt b a) list.attach
  have same : (list.attach.insertionSort fun a b : { a // a ∈ list } => ¬ lt b a).map
      Subtype.val = list.insertionSort fun a b => ¬ lt b a := by
    rw [List.map_insertionSort (fun a b : { a // a ∈ list } => ¬ lt b a)
      (fun a b => ¬ lt b a) Subtype.val list.attach (fun a _ b _ => Iff.rfl),
      List.attach_map_subtype_val]
  rw [← same]
  exact List.pairwise_map.mpr sorted

end Orders

def StdSort.insertion : StdSort where
  sort groups := groups.insertionSort fun a b => ¬ sortCompareMTUResNum b a
  sorts groups order := by
    refine ⟨List.perm_insertionSort _ groups, ?_⟩
    exact @pairwise_insertionSort_strictWeak _ (fun a b => sortCompareMTUResNum a b = true) _
      groups order

/-- The groups by MTU, and those of one MTU by the number of vNICs, both descending. -/
def Descending (groups : List CReqNumInfo) : Prop :=
  groups.Pairwise fun a b =>
    b.nMTU < a.nMTU ∨ (a.nMTU = b.nMTU ∧ b.nSourceNum ≤ a.nSourceNum)

/-- No group has the larger MTU and fewer vNICs than another. -/
def Agree (groups : List CReqNumInfo) : Prop :=
  ∀ a ∈ groups, ∀ b ∈ groups, b.nMTU < a.nMTU → b.nSourceNum ≤ a.nSourceNum

variable {groups : List CReqNumInfo}

theorem sortCompareMTUResNum_iff (a b : CReqNumInfo) :
    sortCompareMTUResNum a b = true ↔ b.nMTU < a.nMTU ∨ b.nSourceNum < a.nSourceNum := by
  unfold sortCompareMTUResNum
  by_cases mtu : a.nMTU > b.nMTU
  · simp [mtu]
  · by_cases number : a.nSourceNum > b.nSourceNum
    · simp [number]
    · simp [mtu, number]

/-- Where the keys agree the two tests are the order by both of them. -/
theorem strictWeak_of_agree (agree : Agree groups) :
    IsStrictWeakOrder { group // group ∈ groups }
      fun a b => sortCompareMTUResNum a b where
  irrefl a := by
    rw [sortCompareMTUResNum_iff]
    omega
  trans a b c := by
    simp only [sortCompareMTUResNum_iff]
    have ab := agree a a.2 b b.2
    have ba := agree b b.2 a a.2
    have cb := agree c c.2 b b.2
    have bc := agree b b.2 c c.2
    omega
  incomp_trans a b c := by
    simp only [sortCompareMTUResNum_iff]
    omega

theorem agree_of_strictWeak
    (order : IsStrictWeakOrder { group // group ∈ groups }
      fun a b => sortCompareMTUResNum a b) : Agree groups := by
  intro a left b right mtu
  by_contra number
  have forward : sortCompareMTUResNum a b = true :=
    (sortCompareMTUResNum_iff a b).mpr (Or.inl mtu)
  have back : sortCompareMTUResNum b a = true :=
    (sortCompareMTUResNum_iff b a).mpr (Or.inr (Int.not_le.mp number))
  exact order.irrefl ⟨a, left⟩ (order.trans ⟨a, left⟩ ⟨b, right⟩ ⟨a, left⟩ forward back)

theorem descending_sort (std : StdSort) (agree : Agree groups) :
    Descending (std.sort groups) := by
  have sorted := (std.sorts groups (strictWeak_of_agree agree)).2
  refine sorted.imp fun {a b} behind => ?_
  rw [sortCompareMTUResNum_iff] at behind
  omega

section CountMtus

variable {getPgByLogicNetwork : String → Option CPortGroup} {vecVnicMem : List CVNetVnicMem}
  {reqs : List VnicReq}

/-- Of two vNICs that wait in one vector, the one with the larger MTU has at least as many vNICs
with it. -/
def KeysAgree (reqs : List VnicReq) : Prop :=
  ∀ req ∈ reqs, ∀ other ∈ reqs, other.category = req.category →
    other.queue reqs = req.queue reqs → other.pg.mtu < req.pg.mtu →
      (other.peers reqs).length ≤ (req.peers reqs).length

instance (reqs : List VnicReq) : Decidable (KeysAgree reqs) :=
  inferInstanceAs (Decidable (∀ _ ∈ _, ∀ _ ∈ _, _ → _ → _ → _))

theorem agree_iff (found : vnicReqs getPgByLogicNetwork 0 vecVnicMem = some reqs) :
    (∀ info ∈ countVnics reqs, ∀ q, Agree (info.groups q)) ↔ KeysAgree reqs := by
  obtain ⟨vnicOf, groupOf, schedule⟩ := countVnics_groups found
  constructor
  · intro agree req present other otherPresent category queue mtu
    obtain ⟨info, member, same⟩ := schedule req present
    obtain ⟨a, aIn, aOf⟩ := groupOf info member req present same
    obtain ⟨b, bIn, bOf⟩ := groupOf info member other otherPresent (category.trans same)
    rw [queue] at bIn
    have number := agree info member _ a aIn b bIn (by rw [aOf.mtu, bOf.mtu]; exact mtu)
    rw [aOf.number, bOf.number] at number
    exact Int.ofNat_le.mp number
  · intro keys info member q a aIn b bIn mtu
    obtain ⟨req, present, category, queue, aOf⟩ := vnicOf info member q a aIn
    obtain ⟨other, otherPresent, otherCategory, otherQueue, bOf⟩ := vnicOf info member q b bIn
    rw [aOf.mtu, bOf.mtu] at mtu
    rw [aOf.number, bOf.number]
    exact Int.ofNat_le.mpr (keys req present other otherPresent
      (otherCategory.trans category.symm) (otherQueue.trans queue.symm) mtu)

/-- The comparison is an order of the groups, and the sort puts them as it says, exactly for the
machines whose keys agree. -/
theorem countMtus_right_iff (std : StdSort)
    (found : vnicReqs getPgByLogicNetwork 0 vecVnicMem = some reqs) :
    ((∀ info ∈ countVnics reqs, ∀ q, IsStrictWeakOrder { group // group ∈ info.groups q }
        fun a b => sortCompareMTUResNum a b) ∧
      ∃ infos, countMtus std getPgByLogicNetwork vecVnicMem = some infos ∧
        ∀ info ∈ infos, ∀ q, Descending (info.groups q)) ↔ KeysAgree reqs := by
  rw [← agree_iff found]
  constructor
  · intro right info member q
    exact agree_of_strictWeak (right.1 info member q)
  · intro agree
    refine ⟨fun info member q => strictWeak_of_agree (agree info member q),
      (countVnics reqs).map std.sortInfo, by rw [countMtus, found, Option.map_some], ?_⟩
    intro info member q
    obtain ⟨counted, there, rfl⟩ := List.mem_map.mp member
    have sorted := descending_sort std (agree counted there q)
    cases q with
    | normal => exact sorted
    | bond => exact sorted
    | vxlan => exact sorted

def twoNetworks (strLogicNetwork : String) : Option CPortGroup :=
  if strLogicNetwork = "wide" then some ⟨"plane", 0, 9000, .vlan⟩
  else if strLogicNetwork = "narrow" then some ⟨"plane", 0, 1500, .vlan⟩
  else none

def wideVnic : CVNetVnicMem := ⟨"wide", false, false⟩
def narrowVnic : CVNetVnicMem := ⟨"narrow", false, false⟩

theorem wide_first :
    ∃ infos, countMtus StdSort.insertion twoNetworks [narrowVnic, wideVnic] = some infos ∧
      ∀ info ∈ infos, ∀ q, Descending (info.groups q) :=
  ((countMtus_right_iff StdSort.insertion (show vnicReqs twoNetworks 0 [narrowVnic, wideVnic] =
    some [⟨0, narrowVnic, ⟨"plane", 0, 1500, .vlan⟩⟩, ⟨1, wideVnic, ⟨"plane", 0, 9000, .vlan⟩⟩]
    by rfl)).mpr (by decide)).2

def wideGroup : CReqNumInfo := ⟨9000, "", 1, "", [0], []⟩
def narrowGroup : CReqNumInfo := ⟨1500, "", 2, "", [1, 2], []⟩

/-- One vNIC with the larger MTU and two with the smaller: each group comes before the other. -/
theorem wide_behind_narrow :
    sortCompareMTUResNum wideGroup narrowGroup ∧ sortCompareMTUResNum narrowGroup wideGroup ∧
      (¬ IsStrictWeakOrder CReqNumInfo fun a b => sortCompareMTUResNum a b) ∧
      countMtus StdSort.insertion twoNetworks [wideVnic, narrowVnic, narrowVnic] =
        some [⟨"plane", false, false, 0, [narrowGroup, wideGroup], [], [], []⟩] ∧
      ¬ Descending [narrowGroup, wideGroup] := by
  refine ⟨by decide, by decide, ?_, by decide, ?_⟩
  · intro order
    exact order.irrefl wideGroup
      (order.trans wideGroup narrowGroup wideGroup (by decide) (by decide))
  · unfold Descending
    decide

end CountMtus

end Tecs.VnmSchedule
