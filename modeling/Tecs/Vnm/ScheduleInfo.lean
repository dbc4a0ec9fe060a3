import Tecs.Library.Buckets

set_option autoImplicit false

/-! The requests of a virtual machine for switches: its vNICs counted into groups. -/

namespace Tecs.VnmSchedule

section Definitions

inductive QueryDbSchType
  | normal | bond | vxlan
deriving Repr, DecidableEq

inductive IsolateTech
  | vlan | vxlan | vlanVxlan
deriving Repr, DecidableEq

structure CVNetVnicMem where
  logicNetworkUuid : String
  isLoop : Bool
  isSriov : Bool
deriving Repr, DecidableEq

structure CPortGroup where
  netplaneUuid : String
  isSdn : ℤ
  mtu : ℤ
  isolateType : IsolateTech
deriving Repr, DecidableEq

/-- A row of a schedule query. -/
structure CDbSchedule where
  isBondNic : Bool := false
  switchUuid : String := ""
  portUuid : String := ""
  switchSriovFreeNum : ℤ := 0
  switchFreeNum : ℤ := 0
  bondValidPhyPortNum : ℤ := 0
  bondPhyPortUuid : String := ""
  bondPhyPortFreeNum : ℤ := 0
deriving Repr, DecidableEq

/-- A group of vNICs that are counted together, `setVnicIter` their places in the machine. -/
structure CReqNumInfo where
  nMTU : ℤ
  strLogicNetwork : String
  nSourceNum : ℤ
  strDeployedDvs : String
  setVnicIter : List ℕ
  vecSchResult : List CDbSchedule
deriving Repr, DecidableEq

structure CScheduleInfo where
  netplane : String
  isLoop : Bool
  isSriov : Bool
  isSdn : ℤ
  vecMTUNum : List CReqNumInfo
  vecTempSriovMTUNum : List CReqNumInfo
  vecSriovBondMTUNum : List CReqNumInfo
  vecVxlanMTUNum : List CReqNumInfo
deriving Repr, DecidableEq

/-- A vNIC at its place, with the port group of its logic network. -/
structure VnicReq where
  iter : ℕ
  vnic : CVNetVnicMem
  pg : CPortGroup
deriving Repr, DecidableEq

def CReqNumInfo.ofMTU (nMTU : ℤ) (strLogicNetwork : String) : CReqNumInfo :=
  ⟨nMTU, strLogicNetwork, 0, "", [], []⟩

/-- The places come in ascending order, so that the set of them stays a list with the new one at
its end. -/
def CReqNumInfo.insertVnics (iters : List ℕ) (info : CReqNumInfo) : CReqNumInfo :=
  { info with nSourceNum := info.nSourceNum + 1, setVnicIter := info.setVnicIter ++ iters }

/-- The `AddMTUNum` for vNICs with a loop port or SR-IOV. -/
def addNetworkMTUNum (strLGNetworkUuid : String) (nMTU : ℤ) (iter : ℕ)
    (nIsolateType : IsolateTech) (info : CScheduleInfo) : CScheduleInfo :=
  let add := Buckets.put (fun group => group.strLogicNetwork = strLGNetworkUuid)
    (CReqNumInfo.insertVnics [iter])
    ((CReqNumInfo.ofMTU nMTU strLGNetworkUuid).insertVnics [iter])
  if info.isSriov then
    if nIsolateType = .vxlan then { info with vecVxlanMTUNum := add info.vecVxlanMTUNum }
    else { info with vecTempSriovMTUNum := add info.vecTempSriovMTUNum }
  else
    if nIsolateType = .vxlan then { info with vecVxlanMTUNum := add info.vecVxlanMTUNum }
    else { info with vecMTUNum := add info.vecMTUNum }

def addMTUNum (nMTU : ℤ) (iter : ℕ) (nIsolateType : IsolateTech) (info : CScheduleInfo) :
    CScheduleInfo :=
  let add := Buckets.put (fun group => group.nMTU = nMTU ∧ group.strLogicNetwork = "")
    (CReqNumInfo.insertVnics [iter]) ((CReqNumInfo.ofMTU nMTU "").insertVnics [iter])
  if nIsolateType = .vxlan then { info with vecVxlanMTUNum := add info.vecVxlanMTUNum }
  else { info with vecMTUNum := add info.vecMTUNum }

def VnicReq.network (req : VnicReq) : String := req.vnic.logicNetworkUuid

/-- What the vNICs of one schedule have in common. -/
def VnicReq.category (req : VnicReq) : String × Bool × Bool × ℤ :=
  (req.pg.netplaneUuid, req.vnic.isLoop, req.vnic.isSriov, req.pg.isSdn)

def CScheduleInfo.category (info : CScheduleInfo) : String × Bool × Bool × ℤ :=
  (info.netplane, info.isLoop, info.isSriov, info.isSdn)

def VnicReq.addTo (req : VnicReq) (info : CScheduleInfo) : CScheduleInfo :=
  if req.vnic.isLoop || req.vnic.isSriov then
    addNetworkMTUNum req.network req.pg.mtu req.iter req.pg.isolateType info
  else addMTUNum req.pg.mtu req.iter req.pg.isolateType info

def VnicReq.schedule (req : VnicReq) : CScheduleInfo :=
  ⟨req.pg.netplaneUuid, req.vnic.isLoop, req.vnic.isSriov, req.pg.isSdn, [], [], [], []⟩

/-- The loop of `CountMtus` over the vNICs. -/
def addVnic (infos : List CScheduleInfo) (req : VnicReq) : List CScheduleInfo :=
  Buckets.put (fun info => info.category = req.category) req.addTo (req.addTo req.schedule) infos

def mergeSingle (merged : List CReqNumInfo) (single : CReqNumInfo) : List CReqNumInfo :=
  Buckets.put (fun group => group.nMTU = single.nMTU)
    (CReqNumInfo.insertVnics single.setVnicIter)
    ((CReqNumInfo.ofMTU single.nMTU "").insertVnics single.setVnicIter) merged

def coutSriovReqInfo (info : CScheduleInfo) : CScheduleInfo :=
  if !info.isSriov then info
  else if info.isLoop then { info with vecMTUNum := info.vecTempSriovMTUNum }
  else
    let single := info.vecTempSriovMTUNum.filter fun group => ¬ group.nSourceNum > 1
    { info with
      vecSriovBondMTUNum := info.vecSriovBondMTUNum ++
        info.vecTempSriovMTUNum.filter fun group => group.nSourceNum > 1
      vecTempSriovMTUNum := single
      vecMTUNum := single.foldl mergeSingle info.vecMTUNum }

/-- By MTU, then by the number of vNICs, both descending. -/
def sortCompareMTUResNum (a b : CReqNumInfo) : Bool :=
  if a.nMTU > b.nMTU then true
  else if a.nSourceNum > b.nSourceNum then true
  else false

/-- The sort of the standard library: it sorts by a strict weak order of what it is given, and
promises nothing where the comparison is none. -/
structure StdSort where
  sort : List CReqNumInfo → List CReqNumInfo
  sorts : ∀ groups : List CReqNumInfo,
    IsStrictWeakOrder { group // group ∈ groups } (fun a b => sortCompareMTUResNum a b) →
    (sort groups).Perm groups ∧ (sort groups).Pairwise fun a b => ¬ sortCompareMTUResNum b a

def StdSort.sortInfo (std : StdSort) (info : CScheduleInfo) : CScheduleInfo :=
  { info with
    vecMTUNum := std.sort info.vecMTUNum
    vecSriovBondMTUNum := std.sort info.vecSriovBondMTUNum
    vecVxlanMTUNum := std.sort info.vecVxlanMTUNum }

/-- The vNICs from a place on; a logic network without a port group fails the call. -/
def vnicReqs (getPgByLogicNetwork : String → Option CPortGroup) :
    ℕ → List CVNetVnicMem → Option (List VnicReq)
  | _, [] => some []
  | iter, vnic :: rest => do
      let pg ← getPgByLogicNetwork vnic.logicNetworkUuid
      let reqs ← vnicReqs getPgByLogicNetwork (iter + 1) rest
      some (⟨iter, vnic, pg⟩ :: reqs)

/-- The schedules as `CountMtus` hands their groups to the sort. -/
def countVnics (reqs : List VnicReq) : List CScheduleInfo :=
  (reqs.foldl addVnic []).map coutSriovReqInfo

def countMtus (std : StdSort) (getPgByLogicNetwork : String → Option CPortGroup)
    (vecVnicMem : List CVNetVnicMem) : Option (List CScheduleInfo) :=
  (vnicReqs getPgByLogicNetwork 0 vecVnicMem).map fun reqs => (countVnics reqs).map std.sortInfo

/-- The groups of a schedule by the kind of the query that is made for them. -/
def CScheduleInfo.groups (info : CScheduleInfo) : QueryDbSchType → List CReqNumInfo
  | .normal => info.vecMTUNum
  | .bond => info.vecSriovBondMTUNum
  | .vxlan => info.vecVxlanMTUNum

end Definitions

section Counting

/-! What the groups are, in terms of the vNICs alone. -/

/-- Two vNICs of one schedule are in one group if these are the same. -/
def VnicReq.key (req : VnicReq) : String × ℤ :=
  if req.vnic.isLoop || req.vnic.isSriov then (req.network, 0) else ("", req.pg.mtu)

def CReqNumInfo.key (networked : Bool) (group : CReqNumInfo) : String × ℤ :=
  if networked then (group.strLogicNetwork, 0) else (group.strLogicNetwork, group.nMTU)

def ofNetwork (reqs : List VnicReq) (req : VnicReq) : List VnicReq :=
  reqs.filter fun other => other.category = req.category ∧ other.pg.isolateType ≠ .vxlan ∧
    other.key = req.key

/-- The kind of the query that is made for a vNIC. -/
def VnicReq.queue (reqs : List VnicReq) (req : VnicReq) : QueryDbSchType :=
  if req.pg.isolateType = .vxlan then .vxlan
  else if req.vnic.isSriov ∧ ¬ req.vnic.isLoop ∧ 1 < (ofNetwork reqs req).length then .bond
  else .normal

/-- One vNIC with SR-IOV of a logic network goes with those of other networks by its MTU. -/
def VnicReq.Together (reqs : List VnicReq) (req other : VnicReq) : Prop :=
  other.category = req.category ∧ other.queue reqs = req.queue reqs ∧
    if req.vnic.isSriov ∧ ¬ req.vnic.isLoop ∧ req.queue reqs = .normal then
      other.pg.mtu = req.pg.mtu
    else other.key = req.key

instance (reqs : List VnicReq) (req : VnicReq) : DecidablePred (req.Together reqs) :=
  fun _ => inferInstanceAs (Decidable (_ ∧ _ ∧ ite _ _ _))

def VnicReq.peers (reqs : List VnicReq) (req : VnicReq) : List VnicReq :=
  reqs.filter fun other => req.Together reqs other

/-- A group is that of a vNIC: it has its MTU and holds all that go with it. -/
structure CReqNumInfo.Of (reqs : List VnicReq) (req : VnicReq) (group : CReqNumInfo) : Prop where
  mtu : group.nMTU = req.pg.mtu
  vnics : group.setVnicIter.Perm ((req.peers reqs).map VnicReq.iter)
  number : group.nSourceNum = (req.peers reqs).length
  fresh : group.strDeployedDvs = "" ∧ group.vecSchResult = []

/-- The MTU of a vNIC is that of its logic network. -/
def Known (mtuOf : String → ℤ) (req : VnicReq) : Prop := req.pg.mtu = mtuOf req.network

structure CReqNumInfo.Counted (mtuOf : String → ℤ) (networked : Bool) (held : List VnicReq)
    (group : CReqNumInfo) : Prop where
  vnics : group.setVnicIter = held.map VnicReq.iter
  number : group.nSourceNum = held.length
  mtu : ∀ req ∈ held, group.nMTU = req.pg.mtu
  known : networked = true → group.nMTU = mtuOf group.strLogicNetwork
  fresh : group.strDeployedDvs = "" ∧ group.vecSchResult = []

def Groups (mtuOf : String → ℤ) (networked : Bool) (held : List VnicReq)
    (groups : List CReqNumInfo) : Prop :=
  Buckets.Filled VnicReq.key (CReqNumInfo.key networked) (CReqNumInfo.Counted mtuOf networked)
    held groups

variable {mtuOf : String → ℤ} {held : List VnicReq} {req : VnicReq} {groups : List CReqNumInfo}

theorem counted_grown {networked : Bool} {group : CReqNumInfo}
    (counted : group.Counted mtuOf networked held) (mtu : group.nMTU = req.pg.mtu) :
    (group.insertVnics [req.iter]).Counted mtuOf networked (held ++ [req]) where
  vnics := by simp [CReqNumInfo.insertVnics, counted.vnics]
  number := by simp [CReqNumInfo.insertVnics, counted.number]
  mtu := by
    intro other member
    rw [List.mem_append, List.mem_singleton] at member
    cases member with
    | inl old => exact counted.mtu other old
    | inr same => exact same ▸ mtu
  known := counted.known
  fresh := counted.fresh

theorem counted_begun {networked : Bool} {strLogicNetwork : String}
    (known : networked = true → req.pg.mtu = mtuOf strLogicNetwork) :
    ((CReqNumInfo.ofMTU req.pg.mtu strLogicNetwork).insertVnics [req.iter]).Counted mtuOf
      networked [req] where
  vnics := rfl
  number := rfl
  mtu := by
    intro other member
    rw [List.mem_singleton] at member
    exact member ▸ rfl
  known := known
  fresh := ⟨rfl, rfl⟩

theorem groups_network (groupsOf : Groups mtuOf true held groups) (known : Known mtuOf req)
    (networked : (req.vnic.isLoop || req.vnic.isSriov) = true) :
    Groups mtuOf true (held ++ [req])
      (Buckets.put (fun group => group.strLogicNetwork = req.network)
        (CReqNumInfo.insertVnics [req.iter])
        ((CReqNumInfo.ofMTU req.pg.mtu req.network).insertVnics [req.iter]) groups) := by
  have key : req.key = (req.network, 0) := by rw [VnicReq.key, if_pos networked]
  apply Buckets.Filled.put groupsOf
  · intro group _
    rw [key, CReqNumInfo.key, if_pos rfl, Prod.mk.injEq, and_iff_left rfl]
  · intro group
    rfl
  · rw [key]
    rfl
  · exact counted_begun fun _ => known
  · intro held group counted same
    rw [key, CReqNumInfo.key, if_pos rfl, Prod.mk.injEq] at same
    exact counted_grown counted ((counted.known rfl).trans (same.1 ▸ known.symm))

theorem groups_mtu (groupsOf : Groups mtuOf false held groups)
    (plain : (req.vnic.isLoop || req.vnic.isSriov) = false) :
    Groups mtuOf false (held ++ [req])
      (Buckets.put (fun group => group.nMTU = req.pg.mtu ∧ group.strLogicNetwork = "")
        (CReqNumInfo.insertVnics [req.iter])
        ((CReqNumInfo.ofMTU req.pg.mtu "").insertVnics [req.iter]) groups) := by
  have key : req.key = ("", req.pg.mtu) := by rw [VnicReq.key, plain, if_neg (by decide)]
  apply Buckets.Filled.put groupsOf
  · intro group _
    rw [key, CReqNumInfo.key, if_neg (by decide), Prod.mk.injEq, and_comm]
  · intro group
    rfl
  · rw [key]
    rfl
  · exact counted_begun fun impossible => nomatch impossible
  · intro held group counted same
    rw [key, CReqNumInfo.key, if_neg (by decide), Prod.mk.injEq] at same
    exact counted_grown counted same.2

def VnicReq.isVxlan (req : VnicReq) : Bool := req.pg.isolateType = .vxlan

/-- A schedule while the vNICs are counted: those without VXLAN wait in one of two vectors. -/
structure CScheduleInfo.Counting (mtuOf : String → ℤ) (held : List VnicReq)
    (info : CScheduleInfo) : Prop where
  vxlan : Groups mtuOf (info.isLoop || info.isSriov) (held.filter VnicReq.isVxlan)
    info.vecVxlanMTUNum
  plain : Groups mtuOf (info.isLoop || info.isSriov) (held.filter fun req => ¬ req.isVxlan)
    (if info.isSriov then info.vecTempSriovMTUNum else info.vecMTUNum)
  idle : (if info.isSriov then info.vecMTUNum else info.vecTempSriovMTUNum) = []
  noBond : info.vecSriovBondMTUNum = []

theorem filter_snoc_pos {p : VnicReq → Bool} (kept : p req = true) :
    (held ++ [req]).filter p = held.filter p ++ [req] := by
  simp [List.filter_append, kept]

theorem filter_snoc_neg {p : VnicReq → Bool} (dropped : p req = false) :
    (held ++ [req]).filter p = held.filter p := by
  simp [List.filter_append, dropped]

/-- What both kinds of `AddMTUNum` do to the vector that a vNIC is counted in. -/
def VnicReq.addGroup (req : VnicReq) (groups : List CReqNumInfo) : List CReqNumInfo :=
  if req.vnic.isLoop || req.vnic.isSriov then
    Buckets.put (fun group => group.strLogicNetwork = req.network)
      (CReqNumInfo.insertVnics [req.iter])
      ((CReqNumInfo.ofMTU req.pg.mtu req.network).insertVnics [req.iter]) groups
  else
    Buckets.put (fun group => group.nMTU = req.pg.mtu ∧ group.strLogicNetwork = "")
      (CReqNumInfo.insertVnics [req.iter])
      ((CReqNumInfo.ofMTU req.pg.mtu "").insertVnics [req.iter]) groups

theorem groups_add {networked : Bool} (groupsOf : Groups mtuOf networked held groups)
    (known : Known mtuOf req) (same : networked = (req.vnic.isLoop || req.vnic.isSriov)) :
    Groups mtuOf networked (held ++ [req]) (req.addGroup groups) := by
  unfold VnicReq.addGroup
  cases networked with
  | true =>
      rw [if_pos same.symm]
      exact groups_network groupsOf known same.symm
  | false =>
      rw [← same, if_neg (by decide)]
      exact groups_mtu groupsOf same.symm

theorem addTo_category (req : VnicReq) (info : CScheduleInfo) :
    (req.addTo info).category = info.category := by
  unfold VnicReq.addTo addNetworkMTUNum addMTUNum
  split <;> (try split) <;> (try split) <;> rfl

theorem category_iff {info : CScheduleInfo} : info.category = req.category ↔
    info.netplane = req.pg.netplaneUuid ∧ info.isLoop = req.vnic.isLoop ∧
      info.isSriov = req.vnic.isSriov ∧ info.isSdn = req.pg.isSdn := by
  simp only [CScheduleInfo.category, VnicReq.category, Prod.mk.injEq]

theorem addTo_eq {info : CScheduleInfo} (sriov : info.isSriov = req.vnic.isSriov) :
    req.addTo info =
      if req.isVxlan then { info with vecVxlanMTUNum := req.addGroup info.vecVxlanMTUNum }
      else if info.isSriov then
        { info with vecTempSriovMTUNum := req.addGroup info.vecTempSriovMTUNum }
      else { info with vecMTUNum := req.addGroup info.vecMTUNum } := by
  unfold VnicReq.addTo VnicReq.addGroup VnicReq.isVxlan
  by_cases networked : (req.vnic.isLoop || req.vnic.isSriov) = true
  · rw [if_pos networked, if_pos networked, if_pos networked, if_pos networked]
    by_cases vxlan : req.pg.isolateType = .vxlan <;> by_cases isSriov : info.isSriov = true <;>
      simp [vxlan, isSriov, addNetworkMTUNum]
  · have plain : ¬ info.isSriov = true := by
      rw [Bool.or_eq_true, not_or] at networked
      exact sriov ▸ networked.2
    rw [if_neg networked, if_neg networked, if_neg networked, if_neg networked]
    by_cases vxlan : req.pg.isolateType = .vxlan <;> simp [vxlan, plain, addMTUNum]

theorem counting_add {info : CScheduleInfo} (counting : info.Counting mtuOf held)
    (known : Known mtuOf req) (same : info.category = req.category) :
    (req.addTo info).Counting mtuOf (held ++ [req]) := by
  obtain ⟨-, loop, sriov, -⟩ := category_iff.mp same
  have networked : (info.isLoop || info.isSriov) = (req.vnic.isLoop || req.vnic.isSriov) := by
    rw [loop, sriov]
  have plain := counting.plain
  have idle := counting.idle
  rw [addTo_eq sriov]
  by_cases vxlan : req.isVxlan = true
  · rw [if_pos vxlan]
    refine ⟨?_, ?_, idle, counting.noBond⟩
    · rw [filter_snoc_pos vxlan]
      exact groups_add counting.vxlan known networked
    · rw [filter_snoc_neg (by simp [vxlan])]
      exact plain
  · rw [Bool.not_eq_true] at vxlan
    have vxlanSame : (held ++ [req]).filter VnicReq.isVxlan = held.filter VnicReq.isVxlan :=
      filter_snoc_neg vxlan
    have plainGrown : (held ++ [req]).filter (fun req => ¬ req.isVxlan) =
        held.filter (fun req => ¬ req.isVxlan) ++ [req] := filter_snoc_pos (by simp [vxlan])
    rw [if_neg (by simp [vxlan])]
    by_cases isSriov : info.isSriov = true
    · rw [if_pos isSriov] at plain idle ⊢
      refine ⟨vxlanSame ▸ counting.vxlan, ?_, ?_, counting.noBond⟩
      · rw [plainGrown, if_pos isSriov]
        exact groups_add plain known networked
      · rw [if_pos isSriov]
        exact idle
    · rw [if_neg isSriov] at plain idle ⊢
      refine ⟨vxlanSame ▸ counting.vxlan, ?_, ?_, counting.noBond⟩
      · rw [plainGrown, if_neg isSriov]
        exact groups_add plain known networked
      · rw [if_neg isSriov]
        exact idle

theorem counting_schedule (req : VnicReq) : req.schedule.Counting mtuOf [] where
  vxlan := Buckets.filled_nil
  plain := by
    rw [VnicReq.schedule, ite_self]
    exact Buckets.filled_nil
  idle := ite_self []
  noBond := rfl

/-- Each vNIC adds to the schedule of its category. -/
theorem filled_addVnics {reqs : List VnicReq} (known : ∀ req ∈ reqs, Known mtuOf req) :
    Buckets.Filled VnicReq.category CScheduleInfo.category
      (fun held info => info.Counting mtuOf held) reqs (reqs.foldl addVnic []) := by
  induction reqs using List.reverseRecOn with
  | nil => exact Buckets.filled_nil
  | append_singleton reqs req ih =>
      rw [List.foldl_append, List.foldl_cons, List.foldl_nil]
      have last : Known mtuOf req := known req (by simp)
      have rest := ih fun other member => known other (List.mem_append_left _ member)
      apply Buckets.Filled.put rest
      · intro info _
        rfl
      · intro info
        exact addTo_category req info
      · exact addTo_category req req.schedule
      · exact counting_add (counting_schedule req) last rfl
      · intro held info counting same
        exact counting_add counting last same

end Counting

end Tecs.VnmSchedule
