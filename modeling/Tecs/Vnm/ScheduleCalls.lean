import Tecs.Vnm.ScheduleBondGroups

set_option autoImplicit false

/-! What a call for one kind comes to: the rows that are read, and the groups they are for. -/

namespace Tecs.VnmSchedule

section Calls

variable {ε α β : Type} {x : Except ε α}

theorem bind_ok {f : α → Except ε β} {b : β} (done : x.bind f = .ok b) :
    ∃ a, x = .ok a ∧ f a = .ok b := by
  cases x with
  | error e => cases done
  | ok a => exact ⟨a, rfl, done⟩

theorem map_ok {f : α → β} {b : β} (done : x.map f = .ok b) : ∃ a, x = .ok a ∧ f a = b := by
  cases x with
  | error e => cases done
  | ok a =>
      cases done
      exact ⟨a, rfl, rfl⟩

end Calls

section Kinds

variable {inv : Inventory} {strVNAUuid : String} {info : CScheduleInfo} {kind : QueryDbSchType}
  {groups : List CReqNumInfo} {alloc : Alloc} {state state' : Alloc × List CDbSchedule}

/-- The rows that the query for a group comes to. -/
def rowsOf (inv : Inventory) (info : CScheduleInfo) (kind : QueryDbSchType)
    (group : CReqNumInfo) : List CDbSchedule :=
  match rowsFor inv info kind group with
  | .ok rows => rows
  | .error _ => []

theorem queryDbScheduleInfo_ok {found : List CReqNumInfo}
    (done : queryDbScheduleInfo inv info kind groups = .ok found) :
    found = groups.map fun group => { group with vecSchResult := rowsOf inv info kind group } := by
  induction groups generalizing found with
  | nil =>
      cases done
      rfl
  | cons group rest ih =>
      obtain ⟨rows, read, more⟩ := bind_ok done
      obtain ⟨others, later, rfl⟩ := map_ok more
      rw [List.map_cons, ih later, rowsOf, read]

/-- The switch that the loop ports of a logic network are on already. -/
def Inventory.deployedDvs (inv : Inventory) (group : CReqNumInfo) : String :=
  match inv.queryDeployByProjectLn group.strLogicNetwork with
  | some [deployed] => deployed.switchUuid
  | _ => group.strDeployedDvs

theorem deployVnics_ok {group : CReqNumInfo} {deployed : CDbDeplySummary} {vnics : List ℕ}
    {result : Alloc} (done : deployVnics info group deployed vnics alloc = .ok result) :
    ∃ m, result = { alloc with mapVnicSriov := m } := by
  induction vnics generalizing alloc with
  | nil =>
      cases done
      exact ⟨result.mapVnicSriov, rfl⟩
  | cons nic rest ih =>
      rw [deployVnics] at done
      split at done
      · exact ih done
      · split at done
        · obtain ⟨m, rfl⟩ := ih done
          split <;> exact ⟨m, rfl⟩
        · cases done

theorem loopGroup_ok {group : CReqNumInfo} {result : CReqNumInfo × Alloc}
    (done : loopGroup inv strVNAUuid info group alloc = .ok result) :
    result.1 = { group with strDeployedDvs := inv.deployedDvs group } ∧
      ∃ m, result.2 = { alloc with mapVnicSriov := m } := by
  unfold Inventory.deployedDvs
  unfold loopGroup at done
  cases found : inv.queryDeployByProjectLn group.strLogicNetwork with
  | none =>
      rw [found] at done
      cases done
  | some summaries =>
      rw [found] at done
      match summaries, done with
      | [], done =>
          cases done
          exact ⟨rfl, alloc.mapVnicSriov, rfl⟩
      | [deployed], done =>
          change (if strVNAUuid ≠ deployed.vnaUuid then _ else _) = _ at done
          split at done
          · cases done
          · obtain ⟨after, served, rfl⟩ := map_ok done
            exact ⟨rfl, deployVnics_ok served⟩
      | _ :: _ :: _, done => cases done

theorem getLoopDVSRes_ok {result : List CReqNumInfo × Alloc}
    (done : getLoopDVSRes inv strVNAUuid info groups alloc = .ok result) :
    result.1 = groups.map (fun group => { group with strDeployedDvs := inv.deployedDvs group }) ∧
      ∃ m, result.2 = { alloc with mapVnicSriov := m } := by
  induction groups generalizing alloc result with
  | nil =>
      cases done
      exact ⟨rfl, alloc.mapVnicSriov, rfl⟩
  | cons group rest ih =>
      obtain ⟨first, looped, more⟩ := bind_ok done
      obtain ⟨others, later, rfl⟩ := map_ok more
      obtain ⟨head, m, same⟩ := loopGroup_ok looped
      obtain ⟨tail, last, rest⟩ := ih later
      rw [same] at rest
      exact ⟨by rw [List.map_cons, ← tail, ← head], last, rest⟩

/-- A group with what the queries before the allocation say of it. -/
def prepared (inv : Inventory) (info : CScheduleInfo) (kind : QueryDbSchType)
    (group : CReqNumInfo) : CReqNumInfo :=
  { group with
    vecSchResult := rowsOf inv info kind group
    strDeployedDvs := if info.isLoop then inv.deployedDvs group else group.strDeployedDvs }

/-- What `AllocDVSRes` does after the loop ports. -/
def allocByKind (info : CScheduleInfo) (nType : QueryDbSchType) (vecMTUNum : List CReqNumInfo)
    (alloc : Alloc) (vecDbBond : List CDbSchedule) :
    Except ScheduleError (Alloc × List CDbSchedule) :=
  if !info.isSriov then
    match nType with
    | .normal | .vxlan =>
        (getSDVSRes info.isLoop vecMTUNum alloc).map fun alloc => (alloc, vecDbBond)
    | .bond => .error .allotSdvsresFail
  else
    match nType with
    | .normal => getEDVSRes info.isLoop vecMTUNum alloc vecDbBond
    | .bond => (getEDVSBondRes vecMTUNum alloc vecDbBond).map fun alloc => (alloc, vecDbBond)
    | .vxlan => .ok (alloc, vecDbBond)

def preparedGroups (inv : Inventory) (info : CScheduleInfo) (kind : QueryDbSchType) :
    List CReqNumInfo :=
  (info.groups kind).map (prepared inv info kind)

/-- The rows are read, and the loop ports are looked at. -/
def kindStart (inv : Inventory) (strVNAUuid : String) (info : CScheduleInfo)
    (kind : QueryDbSchType) (alloc : Alloc) : Except ScheduleError (List CReqNumInfo × Alloc) :=
  (queryDbScheduleInfo inv info kind (info.groups kind)).bind fun vecMTUNum =>
    if info.isLoop then getLoopDVSRes inv strVNAUuid info vecMTUNum alloc
    else .ok (vecMTUNum, alloc)

theorem kindStart_ok {looped : List CReqNumInfo × Alloc}
    (done : kindStart inv strVNAUuid info kind alloc = .ok looped) :
    looped.1 = preparedGroups inv info kind ∧
      ∃ m, looped.2 = { alloc with mapVnicSriov := m } := by
  obtain ⟨found, read, before⟩ := bind_ok done
  rw [queryDbScheduleInfo_ok read] at before
  rw [preparedGroups]
  by_cases loop : info.isLoop = true
  · rw [if_pos loop] at before
    obtain ⟨same, kept⟩ := getLoopDVSRes_ok before
    have each : prepared inv info kind = (fun group : CReqNumInfo =>
        { group with strDeployedDvs := inv.deployedDvs group }) ∘ fun group =>
        { group with vecSchResult := rowsOf inv info kind group } := by
      funext group
      rw [prepared, if_pos loop]
      rfl
    rw [same, List.map_map, each]
    exact ⟨rfl, kept⟩
  · rw [if_neg loop] at before
    cases before
    have each : prepared inv info kind = fun group =>
        { group with vecSchResult := rowsOf inv info kind group } := by
      funext group
      rw [prepared, if_neg loop]
    rw [each]
    exact ⟨rfl, alloc.mapVnicSriov, rfl⟩

theorem kindStart_nil (none : info.groups kind = []) :
    kindStart inv strVNAUuid info kind alloc = .ok ([], alloc) := by
  rw [kindStart, none]
  change (if info.isLoop then Except.ok ([], alloc) else .ok ([], alloc)) = _
  exact ite_self _

theorem allocKind_ok (done : allocKind inv strVNAUuid info kind state = .ok state') :
    ∃ m, kindStart inv strVNAUuid info kind state.1 =
        .ok (preparedGroups inv info kind, { state.1 with mapVnicSriov := m }) ∧
      ((info.groups kind = [] ∧ state' = ({ state.1 with mapVnicSriov := m }, state.2)) ∨
        allocByKind info kind (preparedGroups inv info kind)
          { state.1 with mapVnicSriov := m } state.2 = .ok state') := by
  unfold allocKind at done
  by_cases none : info.groups kind = []
  · rw [if_pos none] at done
    cases done
    refine ⟨state.1.mapVnicSriov, ?_, Or.inl ⟨none, rfl⟩⟩
    rw [kindStart_nil none, preparedGroups, none]
    rfl
  · rw [if_neg none] at done
    obtain ⟨found, read, more⟩ := bind_ok done
    obtain ⟨looped, before, after⟩ := bind_ok more
    have begun : kindStart inv strVNAUuid info kind state.1 = .ok looped := by
      rw [kindStart, read]
      exact before
    obtain ⟨groups, alloc⟩ := looped
    obtain ⟨rfl, m, rfl⟩ := kindStart_ok begun
    exact ⟨m, begun, Or.inr after⟩

/-- Without SR-IOV. -/
theorem allocKind_sdvs (sriov : info.isSriov = false) (kinds : kind ≠ .bond)
    (done : allocKind inv strVNAUuid info kind state = .ok state') :
    ∃ m, kindStart inv strVNAUuid info kind state.1 =
        .ok (preparedGroups inv info kind, { state.1 with mapVnicSriov := m }) ∧
      sdvsGroups info.isLoop (preparedGroups inv info kind)
        { state.1 with mapVnicSriov := m } [] = .ok state'.1 := by
  obtain ⟨m, begun, ⟨none, rfl⟩ | more⟩ := allocKind_ok done
  · refine ⟨m, begun, ?_⟩
    rw [preparedGroups, none]
    rfl
  · refine ⟨m, begun, ?_⟩
    unfold allocByKind at more
    rw [sriov] at more
    cases kind with
    | bond => exact (kinds rfl).elim
    | normal | vxlan =>
        obtain ⟨result, served, rfl⟩ := map_ok more
        exact served

theorem allocKind_noBond (sriov : info.isSriov = false)
    (done : allocKind inv strVNAUuid info .bond state = .ok state') :
    info.vecSriovBondMTUNum = [] ∧ ∃ m, state'.1 = { state.1 with mapVnicSriov := m } := by
  obtain ⟨m, -, ⟨none, rfl⟩ | more⟩ := allocKind_ok done
  · exact ⟨none, m, rfl⟩
  · rw [allocByKind, sriov] at more
    cases more

/-- With SR-IOV. -/
theorem allocKind_idle (sriov : info.isSriov = true)
    (done : allocKind inv strVNAUuid info .vxlan state = .ok state') :
    ∃ m, state' = ({ state.1 with mapVnicSriov := m }, state.2) := by
  obtain ⟨m, -, ⟨-, rfl⟩ | more⟩ := allocKind_ok done
  · exact ⟨m, rfl⟩
  · rw [allocByKind, sriov] at more
    cases more
    exact ⟨m, rfl⟩

theorem allocKind_edvs (sriov : info.isSriov = true)
    (done : allocKind inv strVNAUuid info .normal state = .ok state') :
    ∃ m, kindStart inv strVNAUuid info .normal state.1 =
        .ok (preparedGroups inv info .normal, { state.1 with mapVnicSriov := m }) ∧
      edvsGroups info.isLoop (preparedGroups inv info .normal)
        { state.1 with mapVnicSriov := m } [] state.2 = .ok state' := by
  obtain ⟨m, begun, ⟨none, rfl⟩ | more⟩ := allocKind_ok done
  · refine ⟨m, begun, ?_⟩
    rw [preparedGroups, none]
    rfl
  · rw [allocByKind, sriov] at more
    exact ⟨m, begun, more⟩

theorem allocKind_bond (sriov : info.isSriov = true)
    (done : allocKind inv strVNAUuid info .bond state = .ok state') :
    ∃ m, kindStart inv strVNAUuid info .bond state.1 =
        .ok (preparedGroups inv info .bond, { state.1 with mapVnicSriov := m }) ∧
      bondGroups (preparedGroups inv info .bond)
        { state.1 with mapVnicSriov := m } state.2 = .ok state'.1 := by
  obtain ⟨m, begun, ⟨none, rfl⟩ | more⟩ := allocKind_ok done
  · refine ⟨m, begun, ?_⟩
    rw [preparedGroups, none]
    rfl
  · rw [allocByKind, sriov] at more
    obtain ⟨result, served, rfl⟩ := map_ok more
    exact ⟨m, begun, served⟩

end Kinds

section Steps

variable (inv : Inventory) (strVNAUuid : String) (info : CScheduleInfo) (alloc : Alloc)

/-- What was allocated before the groups of a kind. -/
def stateBefore : QueryDbSchType → Except ScheduleError (Alloc × List CDbSchedule)
  | .vxlan => .ok (alloc, [])
  | .normal => allocKind inv strVNAUuid info .vxlan (alloc, [])
  | .bond =>
      (allocKind inv strVNAUuid info .vxlan (alloc, [])).bind
        (allocKind inv strVNAUuid info .normal)

/-- What the loops over the groups of a kind begin with. -/
def kindBegin (kind : QueryDbSchType) :
    Except ScheduleError (List CReqNumInfo × Alloc × List CDbSchedule) :=
  (stateBefore inv strVNAUuid info alloc kind).bind fun state =>
    (kindStart inv strVNAUuid info kind state.1).map fun looped => (looped.1, looped.2, state.2)

/-- The rows without a bond that are served for a kind. -/
def kindOffers (kind : QueryDbSchType) : List Offer :=
  match kindBegin inv strVNAUuid info alloc kind with
  | .error _ => []
  | .ok (groups, alloc, vecDbBond) =>
      match kind, info.isSriov with
      | .normal, true => edvsOffers info.isLoop groups alloc [] vecDbBond
      | .normal, false | .vxlan, false => sdvsOffers info.isLoop groups alloc []
      | _, _ => []

/-- The rows of bonds from which ports are taken for single vNICs. -/
def singleTakes : List CDbSchedule :=
  match kindBegin inv strVNAUuid info alloc .normal with
  | .error _ => []
  | .ok (groups, alloc, vecDbBond) =>
      if info.isSriov then edvsTakes info.isLoop groups alloc [] vecDbBond else []

/-- The loop of `GetEDVSBondRes` as each vNIC finds it. -/
def groupOuts : List OutServing :=
  match kindBegin inv strVNAUuid info alloc .bond with
  | .error _ => []
  | .ok (groups, alloc, vecDbBond) =>
      if info.isSriov then bondOuts groups alloc vecDbBond else []

end Steps

section Begin

variable {inv : Inventory} {strVNAUuid : String} {info : CScheduleInfo} {alloc : Alloc}
  {kind : QueryDbSchType} {groups : List CReqNumInfo} {state : Alloc × List CDbSchedule}
  {start : Alloc} {vecDbBond : List CDbSchedule}

theorem stateBefore_bond {first second : Alloc × List CDbSchedule}
    (vxlan : allocKind inv strVNAUuid info .vxlan (alloc, []) = .ok first)
    (normal : allocKind inv strVNAUuid info .normal first = .ok second) :
    stateBefore inv strVNAUuid info alloc .bond = .ok second := by
  rw [stateBefore, vxlan]
  exact normal

theorem kindBegin_ok (before : stateBefore inv strVNAUuid info alloc kind = .ok state)
    (begun : kindStart inv strVNAUuid info kind state.1 = .ok (groups, start)) :
    kindBegin inv strVNAUuid info alloc kind = .ok (groups, start, state.2) := by
  rw [kindBegin, before]
  change (kindStart inv strVNAUuid info kind state.1).map _ = _
  rw [begun]
  rfl

theorem kindOffers_sdvs (sriov : info.isSriov = false) (kinds : kind ≠ .bond)
    (begun : kindBegin inv strVNAUuid info alloc kind = .ok (groups, start, vecDbBond)) :
    kindOffers inv strVNAUuid info alloc kind = sdvsOffers info.isLoop groups start [] := by
  rw [kindOffers, begun, sriov]
  cases kind with
  | bond => exact (kinds rfl).elim
  | normal | vxlan => rfl

theorem kindOffers_edvs (sriov : info.isSriov = true)
    (begun : kindBegin inv strVNAUuid info alloc .normal = .ok (groups, start, vecDbBond)) :
    kindOffers inv strVNAUuid info alloc .normal =
      edvsOffers info.isLoop groups start [] vecDbBond := by
  rw [kindOffers, begun, sriov]

/-- No rows without a bond are served for vNICs that all go to bonds. -/
theorem kindOffers_idle (idle : kind = .bond ∨ (kind = .vxlan ∧ info.isSriov = true)) :
    kindOffers inv strVNAUuid info alloc kind = [] := by
  rw [kindOffers]
  cases kindBegin inv strVNAUuid info alloc kind with
  | error e => rfl
  | ok begun =>
      rcases idle with rfl | ⟨rfl, sriov⟩
      · rfl
      · rw [sriov]

end Begin

section Reading

variable {inv : Inventory} {info : CScheduleInfo} {kind : QueryDbSchType} {group : CReqNumInfo}
  {input : QueryInput} {listings : List Listing} {rows : List CDbSchedule}

theorem row_fromInv (answered : inv.proc input = some listings) {l : Listing}
    (member : l ∈ listings) : FromInv inv (inv.row input.isBondNic l) where
  named := inv.named input listings answered l member
  free := rfl
  sriov := rfl
  bond := by
    intro bond
    change input.isBondNic = true at bond
    have port := inv.bonded input listings answered bond l member
    unfold Inventory.row
    rw [if_pos bond, if_pos bond, if_pos bond]
    exact ⟨port, rfl⟩
  plain := by
    intro plain
    change input.isBondNic = false at plain
    refine ⟨inv.unbonded input listings answered plain l member, ?_⟩
    unfold Inventory.row
    rw [plain]
    rfl

/-- What one procedure answers: the rows are those of the listings. -/
theorem scheduleProc_rows (found : inv.scheduleProc input = some rows) :
    ∀ row ∈ rows, FromInv inv row ∧ row.isBondNic = input.isBondNic := by
  obtain ⟨listings, answered, rfl⟩ := Option.map_eq_some_iff.mp found
  intro row member
  obtain ⟨l, listed, rfl⟩ := List.mem_map.mp member
  exact ⟨row_fromInv answered listed, rfl⟩

theorem schedule_rows {isSriov isLoop : Bool}
    (found : inv.schedule isSriov isLoop input = some rows) : ∀ row ∈ rows, FromInv inv row := by
  unfold Inventory.schedule at found
  split at found
  · obtain ⟨outInfo, first, more⟩ := Option.bind_eq_some_iff.mp found
    obtain ⟨vTmp, second, both⟩ := Option.bind_eq_some_iff.mp more
    cases both
    rw [List.forall_mem_append]
    exact ⟨fun row member => (scheduleProc_rows first row member).1,
      fun row member => (scheduleProc_rows second row member).1⟩
  · exact fun row member => (scheduleProc_rows found row member).1

def queryFor (kind : QueryDbSchType) (group : CReqNumInfo) : QueryInput :=
  ⟨kind = .bond, kind = .vxlan, group.nSourceNum, group.nMTU⟩

/-- The groups come without rows. -/
theorem rowsOf_eq (fresh : group.strDeployedDvs = "" ∧ group.vecSchResult = []) :
    rowsOf inv info kind group =
      (inv.schedule info.isSriov info.isLoop (queryFor kind group)).getD [] := by
  unfold rowsOf rowsFor queryFor
  cases inv.schedule info.isSriov info.isLoop
      ⟨kind = .bond, kind = .vxlan, group.nSourceNum, group.nMTU⟩ with
  | none => rfl
  | some found =>
      rw [fresh.1, fresh.2]
      by_cases empty : found = []
      · rw [empty]
        rfl
      · simp [empty]

theorem rowsOf_fromInv (fresh : group.strDeployedDvs = "" ∧ group.vecSchResult = []) :
    ∀ row ∈ rowsOf inv info kind group, FromInv inv row := by
  rw [rowsOf_eq fresh]
  cases found : inv.schedule info.isSriov info.isLoop (queryFor kind group) with
  | none => exact fun _ => (nomatch ·)
  | some rows => exact schedule_rows found

/-- Only single vNICs with SR-IOV have rows of both procedures. -/
theorem rowsOf_proc (fresh : group.strDeployedDvs = "" ∧ group.vecSchResult = [])
    (one : kind = .bond ∨ info.isLoop = true ∨ info.isSriov = false) :
    rowsOf inv info kind group = (inv.scheduleProc (queryFor kind group)).getD [] := by
  have none : (info.isSriov && !(queryFor kind group).isBondNic && !info.isLoop) = false := by
    rcases one with rfl | loop | sriov
    · cases info.isSriov <;> rfl
    · rw [loop, Bool.not_true, Bool.and_false]
    · rw [sriov, Bool.false_and, Bool.false_and]
  rw [rowsOf_eq fresh, Inventory.schedule, none, if_neg Bool.false_ne_true]

theorem rowsOf_plain (fresh : group.strDeployedDvs = "" ∧ group.vecSchResult = [])
    (single : kind ≠ .bond) (one : info.isLoop = true ∨ info.isSriov = false) :
    ∀ row ∈ rowsOf inv info kind group, row.isBondNic = false := by
  rw [rowsOf_proc fresh (Or.inr one)]
  cases found : inv.scheduleProc (queryFor kind group) with
  | none => exact fun _ => (nomatch ·)
  | some rows =>
      intro row member
      rw [(scheduleProc_rows found row member).2]
      exact decide_eq_false single

theorem prepared_readBonds (fresh : group.strDeployedDvs = "" ∧ group.vecSchResult = []) :
    (prepared inv info .bond group).ReadBonds inv := by
  have rows : (prepared inv info .bond group).vecSchResult =
      (inv.scheduleProc (queryFor .bond group)).getD [] := rowsOf_proc fresh (Or.inl rfl)
  refine ⟨rowsOf_fromInv fresh, ?_⟩
  rw [rows]
  cases found : inv.scheduleProc (queryFor .bond group) with
  | none => exact fun _ => (nomatch ·)
  | some rows => exact fun row member => (scheduleProc_rows found row member).2

end Reading

end Tecs.VnmSchedule
