import Tecs.Library.Run
import Tecs.Sky.Errcode

set_option autoImplicit false

/-! The network resources of a virtual machine, and the record that names them. -/

namespace Tecs

def Status.errVnmvnicGetVnicFromDbFail : Status := 1285
def Status.errVnmvnicDelVnicFromDbFail : Status := 1286
def Status.errVnmvnicAddVnicToDbFail : Status := 1287
def Status.errVnmvnicGetPgMgrInstFail : Status := 1310

namespace CVNMSchedule

open Transition

section Definitions

/-- A vNIC of a request; its VLAN, MAC and IP are one resource. -/
structure CVNetVnicMem where
  nicIndex : ℕ
  resource : Option ℕ
deriving Repr, DecidableEq

/-- The rows of one machine in the tables of machines and vNICs, what is allocated for it, and the
next resource that is free. -/
structure NetState where
  vm : Bool
  vnics : ℕ → Option (Option ℕ)
  held : List ℕ
  fresh : ℕ

inductive DbRet
  | ok | noExist | fail
deriving Repr, DecidableEq

/-- Each vNIC of the request with what its row says, if all of them have a row. -/
def getVmVnic (s : NetState) (vnics : List CVNetVnicMem) : Option (List CVNetVnicMem) :=
  vnics.mapM fun vnic => (s.vnics vnic.nicIndex).map fun resource => { vnic with resource }

/-- The vNICs stay as they are where one of them has no row. -/
def getVm (succeeds : Bool) (s : NetState) (vnics : List CVNetVnicMem) :
    DbRet × List CVNetVnicMem :=
  if !succeeds then (.fail, vnics)
  else if !s.vm then (.noExist, vnics)
  else (.ok, (getVmVnic s vnics).getD vnics)

def insertRows (rows : ℕ → Option (Option ℕ)) (vnics : List CVNetVnicMem) :
    ℕ → Option (Option ℕ) :=
  vnics.foldl (fun rows vnic => Function.update rows vnic.nicIndex (some vnic.resource)) rows

/-- A row that is there is replaced. -/
def insertVm (succeeds : Bool) (vnics : List CVNetVnicMem) (s : NetState) : Bool × NetState :=
  if succeeds then (true, { s with vm := true, vnics := insertRows s.vnics vnics })
  else (false, s)

def deleteVm (succeeds : Bool) (s : NetState) : Bool × NetState :=
  if succeeds then (true, { s with vm := false, vnics := fun _ => none }) else (false, s)

/-- A resource for each vNIC that has none, and the resources taken for it. -/
def allocResources : ℕ → List CVNetVnicMem → List CVNetVnicMem × List ℕ
  | _, [] => ([], [])
  | fresh, vnic :: rest =>
      match vnic.resource with
      | some _ =>
          let later := allocResources fresh rest
          (vnic :: later.1, later.2)
      | none =>
          let later := allocResources (fresh + 1) rest
          ({ vnic with resource := some fresh } :: later.1, fresh :: later.2)

def allocVSIResForVnic (ret : Status) (vnics : List CVNetVnicMem) (s : NetState) :
    Status × List CVNetVnicMem × NetState :=
  if vnics = [] then (.success, vnics, s)
  else if ret ≠ .success then (ret, vnics, s)
  else
    let alloc := allocResources s.fresh vnics
    (.success, alloc.1, { s with
      held := s.held ++ alloc.2
      fresh := s.fresh + alloc.2.length })

def freeVSIResForVnic (ret : Status) (vnics : List CVNetVnicMem) (s : NetState) :
    Status × NetState :=
  if vnics = [] then (.success, s)
  else if ret ≠ .success then (ret, s)
  else (.success, { s with held := s.held.filter (· ∉ vnics.filterMap (·.resource)) })

/-- How the calls of a request end. -/
structure CallResults where
  pPortGroupMgr : Bool
  vnicCfgTrans2Mem : Status
  getVm : Bool
  allocVSIResForVnic : Status
  insertVm : Bool
  deleteVm : Bool
  freeVSIResForVnic : Status
deriving Repr, DecidableEq

def vnicCfgTrans2Mem (nics : List ℕ) : List CVNetVnicMem := nics.map fun nic => ⟨nic, none⟩

/-- A request for the vNICs, and the state of its acknowledgement. -/
def getNetResourceOnCC (nics : List ℕ) (calls : CallResults) (s : NetState) : Status × NetState :=
  if calls.vnicCfgTrans2Mem ≠ .success then (calls.vnicCfgTrans2Mem, s)
  else
    let found := getVm calls.getVm s (vnicCfgTrans2Mem nics)
    if found.1 = .fail then (.errVnmvnicGetVnicFromDbFail, s)
    else
      let alloc := allocVSIResForVnic calls.allocVSIResForVnic found.2 s
      if alloc.1 ≠ .success then (alloc.1, alloc.2.2)
      else
        let inserted := insertVm calls.insertVm alloc.2.1 alloc.2.2
        (if inserted.1 then .success else .errVnmvnicAddVnicToDbFail, inserted.2)

/-- A machine without a record has nothing to free. -/
def freeNetResourceOnCC (nics : List ℕ) (calls : CallResults) (s : NetState) : Status × NetState :=
  if !calls.pPortGroupMgr then (.errVnmvnicGetPgMgrInstFail, s)
  else if calls.vnicCfgTrans2Mem ≠ .success then (calls.vnicCfgTrans2Mem, s)
  else
    let found := getVm calls.getVm s (vnicCfgTrans2Mem nics)
    if found.1 = .noExist then (.success, s)
    else if found.1 = .fail then (.errVnmvnicGetVnicFromDbFail, s)
    else
      let deleted := deleteVm calls.deleteVm s
      if !deleted.1 then (.errVnmvnicDelVnicFromDbFail, deleted.2)
      else freeVSIResForVnic calls.freeVSIResForVnic found.2 deleted.2

inductive NetLabel
  | getNetResource (nics : List ℕ) (calls : CallResults)
  | freeNetResource (nics : List ℕ) (calls : CallResults)
deriving Repr, DecidableEq

def NetState.serve (s : NetState) : NetLabel → Status × NetState
  | .getNetResource nics calls => getNetResourceOnCC nics calls s
  | .freeNetResource nics calls => freeNetResourceOnCC nics calls s

def NetStep (s : NetState) (label : NetLabel) (next : NetState) : Prop :=
  next = (s.serve label).2

def NetState.empty : NetState := ⟨false, fun _ => none, [], 0⟩

/-- A stored row names each resource that is held. -/
def NetState.Named (s : NetState) : Prop :=
  ∀ r ∈ s.held, ∃ nic, s.vnics nic = some (some r)

/-- After a request for resources each one is named, and after a release that is acknowledged with
success there is none. -/
def NetLabel.Kept (s : NetState) : NetLabel → NetState → Prop
  | .getNetResource _ _, next => next.Named
  | .freeNetResource nics calls, next =>
      (freeNetResourceOnCC nics calls s).1 = .success → next.held = []

/-- The steps that leave nothing behind. -/
def KeepingStep (s : NetState) (label : NetLabel) (next : NetState) : Prop :=
  NetStep s label next ∧ label.Kept s next

/-- Where resources are allocated, the record is stored, and it replaces no row; where the record is
deleted, the resources are freed, and the request lists the vNICs of the record. -/
def NetState.Allows (s : NetState) : NetLabel → Prop
  | .getNetResource nics calls =>
      calls.vnicCfgTrans2Mem = .success → calls.getVm = true →
        calls.allocVSIResForVnic = .success →
        (∃ vnic ∈ (getVm true s (vnicCfgTrans2Mem nics)).2, vnic.resource = none) →
        calls.insertVm = true ∧ nics.Nodup ∧ ∀ nic ∈ nics, s.vnics nic = none
  | .freeNetResource nics calls =>
      calls.pPortGroupMgr = true → calls.vnicCfgTrans2Mem = .success → calls.getVm = true →
        s.vm = true → calls.deleteVm = true →
        (∀ nic, s.vnics nic = none) ∨
          calls.freeVSIResForVnic = .success ∧ ∀ nic, (s.vnics nic).isSome = true ↔ nic ∈ nics

end Definitions

section Rows

variable {s : NetState} {vnics found : List CVNetVnicMem} {rows : ℕ → Option (Option ℕ)}

theorem insertRows_other {nic : ℕ} (other : ∀ vnic ∈ vnics, vnic.nicIndex ≠ nic) :
    insertRows rows vnics nic = rows nic := by
  induction vnics generalizing rows with
  | nil => rfl
  | cons vnic rest ih =>
      have ⟨first, later⟩ := List.forall_mem_cons.mp other
      change insertRows (Function.update rows vnic.nicIndex (some vnic.resource)) rest nic = _
      rw [ih later, Function.update_of_ne first.symm]

/-- Each vNIC has its row then, if no two have the same index. -/
theorem insertRows_mem (nodup : (vnics.map (·.nicIndex)).Nodup) {vnic : CVNetVnicMem}
    (mem : vnic ∈ vnics) : insertRows rows vnics vnic.nicIndex = some vnic.resource := by
  induction vnics generalizing rows with
  | nil => cases mem
  | cons first rest ih =>
      have ⟨new, distinct⟩ := List.nodup_cons.mp nodup
      change insertRows (Function.update rows first.nicIndex (some first.resource)) rest _ = _
      rcases List.mem_cons.mp mem with rfl | later
      · rw [insertRows_other, Function.update_self]
        exact fun other memOther same => new (List.mem_map.mpr ⟨other, memOther, same⟩)
      · exact ih distinct later

/-- Rows that say the same already stay. -/
theorem insertRows_same (same : ∀ vnic ∈ vnics, rows vnic.nicIndex = some vnic.resource) :
    insertRows rows vnics = rows := by
  induction vnics with
  | nil => rfl
  | cons vnic rest ih =>
      have ⟨first, later⟩ := List.forall_mem_cons.mp same
      change insertRows (Function.update rows vnic.nicIndex (some vnic.resource)) rest = rows
      rw [← first, Function.update_eq_self]
      exact ih later

/-- Only listed vNICs get other rows. -/
theorem insertRows_row {nic : ℕ} {row : Option ℕ} (there : insertRows rows vnics nic = some row) :
    rows nic = some row ∨ ∃ vnic ∈ vnics, vnic.resource = row := by
  induction vnics generalizing rows with
  | nil => exact .inl there
  | cons vnic rest ih =>
      change insertRows (Function.update rows vnic.nicIndex (some vnic.resource)) rest nic = _
        at there
      rcases ih there with early | ⟨later, mem, same⟩
      · by_cases here : nic = vnic.nicIndex
        · rw [here, Function.update_self] at early
          exact .inr ⟨vnic, List.mem_cons_self, Option.some.inj early⟩
        · rw [Function.update_of_ne here] at early
          exact .inl early
      · exact .inr ⟨later, List.mem_cons_of_mem _ mem, same⟩

/-- What is read says what the rows say. -/
theorem getVmVnic_mem (read : getVmVnic s vnics = some found) :
    found.map (·.nicIndex) = vnics.map (·.nicIndex) ∧
      ∀ vnic ∈ found, s.vnics vnic.nicIndex = some vnic.resource := by
  induction vnics generalizing found with
  | nil =>
      obtain rfl := Option.some.inj read
      exact ⟨rfl, nofun⟩
  | cons vnic rest ih =>
      rw [getVmVnic, List.mapM_cons] at read
      simp only [Option.bind_eq_bind, Option.bind_eq_some_iff, Option.pure_def,
        Option.map_eq_some_iff, Option.some.injEq] at read
      obtain ⟨_, ⟨resource, row, rfl⟩, later, readLater, rfl⟩ := read
      have ⟨indices, rows⟩ := ih readLater
      refine ⟨congrArg (vnic.nicIndex :: ·) indices, fun other mem => ?_⟩
      rcases List.mem_cons.mp mem with rfl | memLater
      · exact row
      · exact rows other memLater

theorem getVmVnic_isSome (all : ∀ vnic ∈ vnics, (s.vnics vnic.nicIndex).isSome = true) :
    ∃ found, getVmVnic s vnics = some found := by
  induction vnics with
  | nil => exact ⟨[], rfl⟩
  | cons vnic rest ih =>
      have ⟨first, later⟩ := List.forall_mem_cons.mp all
      obtain ⟨resource, row⟩ := Option.isSome_iff_exists.mp first
      obtain ⟨found, read⟩ := ih later
      refine ⟨{ vnic with resource } :: found, ?_⟩
      rw [getVmVnic, List.mapM_cons]
      rw [getVmVnic] at read
      simp [row, read]

end Rows

section Resources

variable {vnics : List CVNetVnicMem} {fresh : ℕ}

theorem allocResources_index (fresh : ℕ) (vnics : List CVNetVnicMem) :
    (allocResources fresh vnics).1.map (·.nicIndex) = vnics.map (·.nicIndex) := by
  induction vnics generalizing fresh with
  | nil => rfl
  | cons vnic rest ih =>
      rw [allocResources]
      split
      · exact congrArg (vnic.nicIndex :: ·) (ih fresh)
      · exact congrArg (vnic.nicIndex :: ·) (ih (fresh + 1))

theorem allocResources_filled (fresh : ℕ) (vnics : List CVNetVnicMem) :
    ∀ vnic ∈ (allocResources fresh vnics).1, vnic.resource.isSome = true := by
  induction vnics generalizing fresh with
  | nil => exact nofun
  | cons vnic rest ih =>
      rw [allocResources]
      split
      · next there =>
        exact List.forall_mem_cons.mpr ⟨by rw [there]; rfl, ih fresh⟩
      · exact List.forall_mem_cons.mpr ⟨rfl, ih (fresh + 1)⟩

/-- A vNIC of the request has each resource that is taken. -/
theorem allocResources_new (fresh : ℕ) (vnics : List CVNetVnicMem) :
    ∀ r ∈ (allocResources fresh vnics).2,
      ∃ vnic ∈ (allocResources fresh vnics).1, vnic.resource = some r := by
  induction vnics generalizing fresh with
  | nil => exact nofun
  | cons vnic rest ih =>
      rw [allocResources]
      split
      · intro r mem
        obtain ⟨later, memLater, has⟩ := ih fresh r mem
        exact ⟨later, List.mem_cons_of_mem _ memLater, has⟩
      · intro r mem
        rcases List.mem_cons.mp mem with rfl | memLater
        · exact ⟨_, List.mem_cons_self, rfl⟩
        · obtain ⟨later, there, has⟩ := ih (fresh + 1) r memLater
          exact ⟨later, List.mem_cons_of_mem _ there, has⟩

theorem allocResources_full (full : ∀ vnic ∈ vnics, vnic.resource ≠ none) :
    allocResources fresh vnics = (vnics, []) := by
  induction vnics with
  | nil => rfl
  | cons vnic rest ih =>
      have ⟨first, later⟩ := List.forall_mem_cons.mp full
      rw [allocResources]
      split
      · rw [ih later]
      · next missing => exact absurd missing first

end Resources

section Steps

variable {s next : NetState} {nics : List ℕ} {calls : CallResults} {label : NetLabel}

/-- What is held is named, and the rows are those of a machine that has a record. -/
structure NetState.Inv (s : NetState) : Prop where
  named : s.Named
  absent : s.vm = false → ∀ nic, s.vnics nic = none
  filled : ∀ nic row, s.vnics nic = some row → row.isSome = true

theorem vnicCfgTrans2Mem_index (nics : List ℕ) :
    (vnicCfgTrans2Mem nics).map (·.nicIndex) = nics := by
  rw [vnicCfgTrans2Mem, List.map_map]
  exact List.map_id nics

/-- The vNICs of a request have what their rows say, or nothing. -/
theorem getVm_found (s : NetState) (nics : List ℕ) :
    (getVm true s (vnicCfgTrans2Mem nics)).2.map (·.nicIndex) = nics ∧
      ((∀ vnic ∈ (getVm true s (vnicCfgTrans2Mem nics)).2,
          s.vnics vnic.nicIndex = some vnic.resource) ∨
        ∀ vnic ∈ (getVm true s (vnicCfgTrans2Mem nics)).2, vnic.resource = none) := by
  have indices := vnicCfgTrans2Mem_index nics
  have bare : ∀ vnic ∈ vnicCfgTrans2Mem nics, vnic.resource = none := by
    simp [vnicCfgTrans2Mem]
  rw [getVm, if_neg (by decide)]
  split
  · exact ⟨indices, .inr bare⟩
  · cases read : getVmVnic s (vnicCfgTrans2Mem nics) with
    | none => exact ⟨indices, .inr bare⟩
    | some found =>
        have ⟨same, rows⟩ := getVmVnic_mem read
        exact ⟨same.trans indices, .inl rows⟩

theorem getVm_cases (succeeds : Bool) (s : NetState) (vnics : List CVNetVnicMem) :
    (getVm succeeds s vnics).1 = .fail ↔ succeeds = false := by
  rw [getVm]
  cases succeeds
  · simp
  · cases vm : s.vm <;> simp

theorem NetState.Inv.stored (inv : s.Inv) : NetState.Inv { s with vm := true } :=
  ⟨inv.named, nofun, inv.filled⟩

/-- New resources go to rows that were not there. -/
theorem NetState.Inv.insert (inv : s.Inv) {vnics : List CVNetVnicMem} {new : List ℕ}
    (nodup : (vnics.map (·.nicIndex)).Nodup)
    (filled : ∀ vnic ∈ vnics, vnic.resource.isSome = true)
    (owned : ∀ r ∈ new, ∃ vnic ∈ vnics, vnic.resource = some r)
    (free : ∀ vnic ∈ vnics, s.vnics vnic.nicIndex = none) (fresh : ℕ) :
    NetState.Inv ⟨true, insertRows s.vnics vnics, s.held ++ new, fresh⟩ := by
  refine ⟨fun r mem => ?_, nofun, fun nic row there => ?_⟩
  · rcases List.mem_append.mp mem with old | taken
    · obtain ⟨nic, row⟩ := inv.named r old
      refine ⟨nic, ?_⟩
      change insertRows s.vnics vnics nic = _
      rw [insertRows_other, row]
      intro vnic memVnic same
      have none := free vnic memVnic
      rw [same, row] at none
      cases none
    · obtain ⟨vnic, memVnic, has⟩ := owned r taken
      refine ⟨vnic.nicIndex, ?_⟩
      change insertRows s.vnics vnics vnic.nicIndex = _
      rw [insertRows_mem nodup memVnic, has]
  · rcases insertRows_row there with old | ⟨vnic, mem, rfl⟩
    · exact inv.filled nic row old
    · exact filled vnic mem

theorem get_inv (inv : s.Inv) (allowed : s.Allows (.getNetResource nics calls)) :
    (getNetResourceOnCC nics calls s).2.Inv := by
  rw [getNetResourceOnCC]
  split
  · exact inv
  next translated =>
  dsimp only
  split
  · exact inv
  next present =>
  have reads : calls.getVm = true := by
    cases read : calls.getVm
    · exact absurd ((getVm_cases _ _ _).mpr read) present
    · rfl
  have ⟨indices, rows⟩ := getVm_found s nics
  have allowed := allowed (not_not.mp translated) reads
  rw [reads]
  generalize (getVm true s (vnicCfgTrans2Mem nics)).2 = vnics at indices rows allowed
  rw [allocVSIResForVnic]
  by_cases nothing : vnics = []
  · rw [if_pos nothing, if_neg (not_not.mpr rfl), insertVm, nothing]
    split
    · exact inv.stored
    · exact inv
  rw [if_neg nothing]
  by_cases failed : calls.allocVSIResForVnic ≠ .success
  · rw [if_pos failed, if_pos failed]
    exact inv
  rw [if_neg failed]
  dsimp only
  rw [if_neg (not_not.mpr rfl), insertVm]
  by_cases full : ∀ vnic ∈ vnics, vnic.resource ≠ none
  · -- what the rows say is written back
    rw [allocResources_full full, List.append_nil]
    have same : insertRows s.vnics vnics = s.vnics := by
      rcases rows with rows | bare
      · exact insertRows_same rows
      · obtain ⟨vnic, mem⟩ := List.exists_mem_of_ne_nil _ nothing
        exact absurd (bare vnic mem) (full vnic mem)
    split
    · rw [same]
      exact ⟨inv.named, nofun, inv.filled⟩
    · exact ⟨inv.named, inv.absent, inv.filled⟩
  · push Not at full
    have ⟨inserted, nodup, free⟩ := allowed (not_not.mp failed) full
    rw [if_pos inserted]
    have same := allocResources_index s.fresh vnics
    refine inv.insert (by rw [same, indices]; exact nodup) (allocResources_filled s.fresh vnics)
      (allocResources_new s.fresh vnics) (fun vnic mem => free _ ?_) _
    rw [← indices, ← same]
    exact List.mem_map_of_mem mem

theorem NetState.Inv.bare (inv : s.Inv) (bare : ∀ nic, s.vnics nic = none) : s.held = [] := by
  rw [List.eq_nil_iff_forall_not_mem]
  intro r mem
  obtain ⟨nic, row⟩ := inv.named r mem
  rw [bare] at row
  cases row

/-- The state without a record, where nothing is held. -/
theorem cleared_inv {held : List ℕ} (empty : held = []) (fresh : ℕ) :
    NetState.Inv ⟨false, fun _ => none, held, fresh⟩ := by
  subst empty
  exact ⟨nofun, fun _ _ => rfl, nofun⟩

/-- A request that lists the vNICs of the record finds all that is held. -/
theorem NetState.Inv.found (inv : s.Inv) (vm : s.vm = true)
    (listed : ∀ nic, (s.vnics nic).isSome = true ↔ nic ∈ nics) :
    ∀ r ∈ s.held, r ∈ (getVm true s (vnicCfgTrans2Mem nics)).2.filterMap (·.resource) := by
  have indices := vnicCfgTrans2Mem_index nics
  obtain ⟨found, read⟩ : ∃ found, getVmVnic s (vnicCfgTrans2Mem nics) = some found := by
    refine getVmVnic_isSome fun vnic mem => (listed _).mpr ?_
    rw [← indices]
    exact List.mem_map_of_mem mem
  have ⟨same, rows⟩ := getVmVnic_mem read
  have result : (getVm true s (vnicCfgTrans2Mem nics)).2 = found := by
    rw [getVm, vm, read]
    rfl
  intro r mem
  obtain ⟨nic, row⟩ := inv.named r mem
  have memNic : nic ∈ found.map (·.nicIndex) := by
    rw [same, indices]
    exact (listed nic).mp (by rw [row]; rfl)
  obtain ⟨vnic, memVnic, rfl⟩ := List.mem_map.mp memNic
  rw [result]
  exact List.mem_filterMap.mpr
    ⟨vnic, memVnic, Option.some.inj ((rows vnic memVnic).symm.trans row)⟩

/-- What a release leaves where the record was deleted. -/
theorem freed_held (ret : Status) (vnics : List CVNetVnicMem)
    (frees : s.held = [] ∨ ret = .success ∧ ∀ r ∈ s.held, r ∈ vnics.filterMap (·.resource)) :
    (freeVSIResForVnic ret vnics ⟨false, fun _ => none, s.held, s.fresh⟩).2.Inv ∧
      (freeVSIResForVnic ret vnics ⟨false, fun _ => none, s.held, s.fresh⟩).2.held = [] := by
  have filtered (all : s.held = [] ∨ ∀ r ∈ s.held, r ∈ vnics.filterMap (·.resource)) :
      s.held.filter (· ∉ vnics.filterMap (·.resource)) = [] := by
    rw [List.filter_eq_nil_iff]
    intro r mem
    rcases all with empty | all
    · rw [empty] at mem
      cases mem
    · simpa using all r mem
  rw [freeVSIResForVnic]
  split
  · next none =>
    have empty : s.held = [] := by
      rcases frees with empty | ⟨-, all⟩
      · exact empty
      · rw [List.eq_nil_iff_forall_not_mem]
        intro r mem
        have known := all r mem
        rw [none] at known
        cases known
    exact ⟨cleared_inv empty _, empty⟩
  · split
    · next failed =>
      have empty : s.held = [] := frees.resolve_right fun both => failed both.1
      exact ⟨cleared_inv empty _, empty⟩
    · have gone := filtered (frees.imp_right And.right)
      exact ⟨cleared_inv gone _, gone⟩

theorem free_held (inv : s.Inv) (allowed : s.Allows (.freeNetResource nics calls)) :
    (freeNetResourceOnCC nics calls s).2.Inv ∧
      ((freeNetResourceOnCC nics calls s).1 = .success →
        (freeNetResourceOnCC nics calls s).2.held = []) := by
  have refused {status : Status} (failed : status ≠ .success) :
      s.Inv ∧ (status = .success → s.held = []) :=
    ⟨inv, fun success => absurd success failed⟩
  rw [freeNetResourceOnCC]
  split
  · have error : Status.errVnmvnicGetPgMgrInstFail ≠ .success := by decide
    exact refused error
  next manager =>
  split
  · next failed => exact refused failed
  next translated =>
  have allowed := allowed (by simpa using manager) (not_not.mp translated)
  dsimp only
  split
  · next missing =>
    refine ⟨inv, fun _ => inv.bare (inv.absent ?_)⟩
    rw [getVm] at missing
    cases vm : s.vm
    · rfl
    · cases reads : calls.getVm <;> simp [reads, vm] at missing
  next present =>
  split
  · have error : Status.errVnmvnicGetVnicFromDbFail ≠ .success := by decide
    exact refused error
  next answered =>
  have reads : calls.getVm = true := by
    cases read : calls.getVm
    · exact absurd ((getVm_cases _ _ _).mpr read) answered
    · rfl
  have vm : s.vm = true := by
    cases vm : s.vm
    · exact absurd (by rw [getVm, reads, vm]; rfl) present
    · rfl
  rw [deleteVm]
  cases deleted : calls.deleteVm with
  | false =>
      have error : Status.errVnmvnicDelVnicFromDbFail ≠ .success := by decide
      exact refused error
  | true =>
      rw [reads]
      have freed := freed_held calls.freeVSIResForVnic
        (getVm true s (vnicCfgTrans2Mem nics)).2 (by
          rcases allowed reads vm deleted with bare | ⟨frees, listed⟩
          · exact .inl (inv.bare bare)
          · exact .inr ⟨frees, inv.found vm listed⟩)
      exact ⟨freed.1, fun _ => freed.2⟩

theorem NetState.Inv.step (inv : s.Inv) (allowed : s.Allows label) (taken : NetStep s label next) :
    KeepingStep s label next ∧ next.Inv := by
  refine ⟨⟨taken, ?_⟩, ?_⟩
  · obtain rfl := taken
    cases label with
    | getNetResource nics calls => exact (get_inv inv allowed).named
    | freeNetResource nics calls => exact (free_held inv allowed).2
  · obtain rfl := taken
    cases label with
    | getNetResource nics calls => exact get_inv inv allowed
    | freeNetResource nics calls => exact (free_held inv allowed).1

/-- Requests that store what they allocate, and free what they delete, leave nothing behind. -/
theorem run_keeps {labels : List NetLabel} {last : NetState}
    (run : Run (Guarded NetState.Allows NetStep) .empty labels last) :
    Run KeepingStep .empty labels last ∧ last.Named := by
  have start : NetState.empty.Inv := ⟨nofun, fun _ _ => rfl, nofun⟩
  constructor
  · exact run.convert start fun _ _ _ inv taken => inv.step taken.1 taken.2
  · exact (run.invariant start fun _ _ _ inv taken => (inv.step taken.1 taken.2).2).named

end Steps

section Examples

def callsOk : CallResults := ⟨true, .success, true, .success, true, true, .success⟩

def allocated : NetState := (getNetResourceOnCC [0, 1] callsOk .empty).2

/-- Two vNICs get their resources, a request is repeated, and they are freed. -/
theorem freed_after_retry :
    Run KeepingStep .empty [.getNetResource [0, 1] callsOk, .getNetResource [0, 1] callsOk,
        .freeNetResource [0, 1] callsOk]
      (freeNetResourceOnCC [0, 1] callsOk (getNetResourceOnCC [0, 1] callsOk allocated).2).2 ∧
      (freeNetResourceOnCC [0, 1] callsOk (getNetResourceOnCC [0, 1] callsOk allocated).2).2.Named
      := by
  let again : NetState := (getNetResourceOnCC [0, 1] callsOk allocated).2
  have new : NetState.empty.Allows (.getNetResource [0, 1] callsOk) :=
    fun _ _ _ _ => ⟨rfl, by decide, fun _ _ => rfl⟩
  have repeated : allocated.Allows (.getNetResource [0, 1] callsOk) :=
    fun _ _ _ missing => absurd missing (by decide)
  have listed (nic : ℕ) : (again.vnics nic).isSome = true ↔ nic ∈ [0, 1] := by
    match nic with
    | 0 => decide
    | 1 => decide
    | n + 2 =>
        constructor
        · intro there
          cases there
        · intro mem
          simp at mem
  have freed : again.Allows (.freeNetResource [0, 1] callsOk) :=
    fun _ _ _ _ _ => .inr ⟨rfl, listed⟩
  have run : Run (Guarded NetState.Allows NetStep) .empty [.getNetResource [0, 1] callsOk,
      .getNetResource [0, 1] callsOk, .freeNetResource [0, 1] callsOk]
      (freeNetResourceOnCC [0, 1] callsOk again).2 :=
    ((Run.single ⟨new, rfl⟩).append (Run.single ⟨repeated, rfl⟩)).append (Run.single ⟨freed, rfl⟩)
  exact run_keeps run

/-- A record that is not stored leaves its resources; so does a release that fails after the record
was deleted, and the next one is acknowledged with success. -/
theorem left_behind :
    (¬ ∀ labels last, Run NetStep .empty labels last →
        ∀ nics calls, (getNetResourceOnCC nics calls last).2.Named) ∧
      ¬ ∀ labels last, Run NetStep .empty labels last →
        ∀ nics calls, (freeNetResourceOnCC nics calls last).1 = .success →
          (freeNetResourceOnCC nics calls last).2.held = [] := by
  constructor
  · intro all
    obtain ⟨nic, row⟩ := all [] .empty .refl [0] { callsOk with insertVm := false } 0 (by decide)
    cases row
  · intro all
    have run : Run NetStep .empty [.getNetResource [0] callsOk,
        .freeNetResource [0] { callsOk with freeVSIResForVnic := .error }] _ :=
      (Run.single rfl).append (Run.single rfl)
    have held := all _ _ run [0] callsOk (by decide)
    revert held
    decide

end Examples

end CVNMSchedule

end Tecs
