import Tecs.Sky.Errcode

set_option autoImplicit false

/-! Requests that change the number of virtual CPUs of a machine and their speed. -/

namespace Tecs.Vm.ModifyCpu

section Definitions

def VM_FROZEN : ℤ := 8
def VM_SHUTOFF : ℤ := 4
def ON_LINE : ℤ := 2

/-- The object of a machine; `vcpu` and `tcu` are the fields of its configuration. -/
structure VirtualMachine where
  hid : Option ℤ
  hidNext : Option ℤ
  state : ℤ
  logState : ℤ
  vcpu : UInt32
  tcu : UInt32
deriving Repr, DecidableEq

/-- A row of `vm_pool` or `vm_cancel_pool`, whose numbers have signs. -/
structure VmRow where
  hid : Option ℤ
  hidNext : Option ℤ
  logState : ℤ
  vcpu : Int32
  tcu : Int32
deriving Repr, DecidableEq

/-- What `Update` writes of an object. -/
def VirtualMachine.toRow (pvm : VirtualMachine) : VmRow :=
  ⟨pvm.hid, pvm.hidNext, pvm.logState, pvm.vcpu.toInt32, pvm.tcu.toInt32⟩

/-- The object of the machine that a request is about, its row, and the rows of the others. -/
structure VirtualMachinePool where
  pvm : VirtualMachine
  row : VmRow
  others : List VmRow
  cancelled : List VmRow
deriving Repr, DecidableEq

/-- A host with what it has in all, before the machines on it are taken off. -/
structure HostRow where
  oid : ℤ
  runState : ℤ
  enabled : ℤ
  hardwareState : ℤ
  cpus : Int32
  tcuNum : Int32
  allTcu : ℤ
deriving Repr, DecidableEq

/-- Which statements are carried out, and what the workflow tables answer. -/
structure CpuContext where
  isDoing : Bool
  vmDoing : Bool
  selectFails : Bool
  vcpuWritten : Bool
  tcuWritten : Bool
deriving Repr, DecidableEq

def VmRow.product (row : VmRow) : ℤ := row.vcpu.toInt * row.tcu.toInt

/-- How often the view `vms_used` shows a row of `vm_pool` under a host. -/
def VmRow.shown (row : VmRow) (oid : ℤ) : ℤ :=
  (if row.hid = some oid ∧ row.logState ≠ VM_FROZEN then 1 else 0) +
    (if row.hidNext = some oid then 1 else 0)

def VmRow.usedTcu (row : VmRow) (oid : ℤ) : ℤ := row.product * row.shown oid

def VmRow.cancelledTcu (row : VmRow) (oid : ℤ) : ℤ :=
  if row.hid = some oid then row.product else 0

def HostRow.tcuUsed (host : HostRow) (pool : VirtualMachinePool) : ℤ :=
  ((pool.row :: pool.others).map (·.usedTcu host.oid)).sum +
    (pool.cancelled.map (·.cancelledTcu host.oid)).sum

def HostRow.allFreeTcu (host : HostRow) (pool : VirtualMachinePool) : ℤ :=
  host.allTcu - host.tcuUsed pool

/-- An `int4` of the database. -/
def isInt4 (value : ℤ) : Bool := -2 ^ 31 ≤ value && value < 2 ^ 31

/-- The view multiplies the columns of a row under a host, also where the machine is frozen. -/
def VmRow.multiplies (row : VmRow) (oid : ℤ) : Bool :=
  if row.hid = some oid ∨ row.hidNext = some oid then isInt4 row.product else true

/-- The view has a row for the host: a number that is no `int4` is an error. -/
def HostRow.hasView (host : HostRow) (pool : VirtualMachinePool) : Bool :=
  (pool.row :: pool.others).all (·.multiplies host.oid) &&
    pool.cancelled.all (fun row => if row.hid = some host.oid then isInt4 row.product else true) &&
    isInt4 (host.tcuUsed pool) && isInt4 (host.allFreeTcu pool)

/-- What `Match` asks for in front of the condition it is given. -/
def HostRow.inService (host : HostRow) : Bool :=
  host.runState = ON_LINE && host.enabled = 0 && host.hardwareState = 0

variable (newVcpu newTcu : UInt32) (context : CpuContext) (host : HostRow)

def isVmcfgChanged (pvm : VirtualMachine) : Bool := pvm.vcpu ≠ newVcpu || pvm.tcu ≠ newTcu

/-- The products wrap at 32 bits, and so does the difference of what the casts make of them. -/
def tcuDifference (pvm : VirtualMachine) : ℤ :=
  ((newTcu * newVcpu).toInt32 - (pvm.vcpu * pvm.tcu).toInt32).toInt

/-- The statement finds what it asks for the machine's host, whatever the request is. -/
def selectable (pool : VirtualMachinePool) : Bool :=
  !context.selectFails && host.hasView pool && host.inService

def isHostSupportModification (pool : VirtualMachinePool) : Bool :=
  selectable context host pool &&
    (newVcpu.toNat ≤ host.cpus.toInt && newTcu.toNat ≤ host.tcuNum.toInt &&
    tcuDifference newVcpu newTcu pool.pvm ≤ host.allFreeTcu pool && pool.pvm.hid = some host.oid)

def checkHostSupport (pool : VirtualMachinePool) : Status :=
  if isHostSupportModification newVcpu newTcu context host pool then .success
  else .errorNotSupport

def checkModificationSupport (pool : VirtualMachinePool) : Status :=
  if pool.pvm.hid = none then .success else checkHostSupport newVcpu newTcu context host pool

/-- The object is changed in any case; the result of the update is not asked for. -/
def VirtualMachinePool.setValue (pool : VirtualMachinePool)
    (change : VirtualMachine → VirtualMachine) (written : Bool) : Status × VirtualMachinePool :=
  let pvm := change pool.pvm
  (.success, { pool with pvm, row := if written then pvm.toRow else pool.row })

def effectModification (pool : VirtualMachinePool) : Status × VirtualMachinePool :=
  let pool := (pool.setValue (fun pvm => { pvm with vcpu := newVcpu }) context.vcpuWritten).2
  pool.setValue (fun pvm => { pvm with tcu := newTcu }) context.tcuWritten

/-- `ModifyVmCPU::Implement` for a machine that exists. -/
def implement (pool : VirtualMachinePool) : Status × VirtualMachinePool :=
  if context.isDoing then (.errorActionRunning, pool)
  else if context.vmDoing then (.errorPermissionDenied, pool)
  else if pool.pvm.state ≠ VM_SHUTOFF then (.errorNotSupport, pool)
  else if !isVmcfgChanged newVcpu newTcu pool.pvm then (.success, pool)
  else
    let ret := checkModificationSupport newVcpu newTcu context host pool
    if ret ≠ .success then (ret, pool) else effectModification newVcpu newTcu context pool

/-- The host has the virtual CPUs and the speed, whatever it has free. -/
def SizesFit : Prop := newVcpu.toNat ≤ host.cpus.toInt ∧ newTcu.toNat ≤ host.tcuNum.toInt

/-- The growth of the machine as whole numbers. -/
def growth (pvm : VirtualMachine) : ℤ :=
  newTcu.toNat * newVcpu.toNat - pvm.tcu.toNat * pvm.vcpu.toNat

/-- The growth of the product in the machine's row. -/
def storedGrowth (pvm : VirtualMachine) : ℤ :=
  newVcpu.toInt32.toInt * newTcu.toInt32.toInt - pvm.vcpu.toInt32.toInt * pvm.tcu.toInt32.toInt

/-- What is asked of a change of the CPUs of a machine that is bound to the host. -/
structure ChangeRight (pool : VirtualMachinePool) : Prop where
  accepted : checkModificationSupport newVcpu newTcu context host pool = .success ↔
    SizesFit newVcpu newTcu host ∧ growth newVcpu newTcu pool.pvm ≤ host.allFreeTcu pool
  free : (implement newVcpu newTcu context host pool).1 = .success → 0 ≤ host.allFreeTcu pool →
    0 ≤ host.allFreeTcu (implement newVcpu newTcu context host pool).2
  unwritten : ¬ (context.vcpuWritten ∧ context.tcuWritten) →
    (implement newVcpu newTcu context host pool).2 = pool

/-- The values that `Implement` comes to write. -/
def Reached (pool : VirtualMachinePool) : Prop :=
  context.isDoing = false ∧ context.vmDoing = false ∧ pool.pvm.state = VM_SHUTOFF ∧
    (pool.pvm.vcpu ≠ newVcpu ∨ pool.pvm.tcu ≠ newTcu) ∧ selectable context host pool = true ∧
    SizesFit newVcpu newTcu host ∧ tcuDifference newVcpu newTcu pool.pvm ≤ host.allFreeTcu pool

/-- When a change comes out right: a host with the sizes is found exactly if the true growth fits,
what the view takes off the host grows by no more than what is free, and the writes that are made
succeed. -/
structure ChangeFits (pool : VirtualMachinePool) : Prop where
  check : SizesFit newVcpu newTcu host →
    (selectable context host pool = true ∧
        tcuDifference newVcpu newTcu pool.pvm ≤ host.allFreeTcu pool ↔
      growth newVcpu newTcu pool.pvm ≤ host.allFreeTcu pool)
  view : Reached newVcpu newTcu context host pool → 0 ≤ host.allFreeTcu pool →
    (pool.row.shown host.oid ≤ 1 ∧ pool.pvm.vcpu.toNat < 2 ^ 31 ∧ pool.pvm.tcu.toNat < 2 ^ 31) ∨
      storedGrowth newVcpu newTcu pool.pvm * pool.row.shown host.oid ≤ host.allFreeTcu pool
  writes : Reached newVcpu newTcu context host pool → context.vcpuWritten ∧ context.tcuWritten

end Definitions

section Change

variable {newVcpu newTcu : UInt32} {context : CpuContext} {host : HostRow}
  {pool : VirtualMachinePool}

theorem isHostSupportModification_iff (bound : pool.pvm.hid = some host.oid) :
    isHostSupportModification newVcpu newTcu context host pool = true ↔
      selectable context host pool = true ∧ SizesFit newVcpu newTcu host ∧
        tcuDifference newVcpu newTcu pool.pvm ≤ host.allFreeTcu pool := by
  simp only [isHostSupportModification, SizesFit, bound, Bool.and_eq_true, decide_eq_true_eq,
    and_true, and_assoc]

theorem check_success_iff (bound : pool.pvm.hid = some host.oid) :
    checkModificationSupport newVcpu newTcu context host pool = .success ↔
      selectable context host pool = true ∧ SizesFit newVcpu newTcu host ∧
        tcuDifference newVcpu newTcu pool.pvm ≤ host.allFreeTcu pool := by
  have held : pool.pvm.hid ≠ none := by
    rw [bound]
    exact Option.some_ne_none _
  rw [checkModificationSupport, if_neg held, checkHostSupport,
    ← isHostSupportModification_iff bound]
  split
  · rename_i supported
    exact iff_of_true rfl supported
  · rename_i refused
    exact iff_of_false (by decide) refused

/-- What a request does to the pool: nothing, or the two writes. -/
theorem implement_cases (bound : pool.pvm.hid = some host.oid) :
    (Reached newVcpu newTcu context host pool ∧
      implement newVcpu newTcu context host pool =
        effectModification newVcpu newTcu context pool) ∨
    (¬ Reached newVcpu newTcu context host pool ∧
      (implement newVcpu newTcu context host pool).2 = pool) := by
  have check := @check_success_iff newVcpu newTcu context host pool bound
  unfold implement
  by_cases doing : context.isDoing = true
  · rw [if_pos doing]
    exact Or.inr ⟨fun reached => absurd doing (Bool.eq_false_iff.mp reached.1), rfl⟩
  by_cases vmDoing : context.vmDoing = true
  · rw [if_neg doing, if_pos vmDoing]
    exact Or.inr ⟨fun reached => absurd vmDoing (Bool.eq_false_iff.mp reached.2.1), rfl⟩
  by_cases off : pool.pvm.state ≠ VM_SHUTOFF
  · rw [if_neg doing, if_neg vmDoing, if_pos off]
    exact Or.inr ⟨fun reached => absurd reached.2.2.1 off, rfl⟩
  rw [if_neg doing, if_neg vmDoing, if_neg off]
  have changed : (!isVmcfgChanged newVcpu newTcu pool.pvm) = true ↔
      ¬ (pool.pvm.vcpu ≠ newVcpu ∨ pool.pvm.tcu ≠ newTcu) := by
    simp [isVmcfgChanged]
  split
  · rename_i same
    exact Or.inr ⟨fun reached => changed.mp same reached.2.2.2.1, rfl⟩
  rename_i different
  have differs := not_not.mp (mt changed.mpr different)
  dsimp only
  split
  · rename_i refused
    exact Or.inr ⟨fun reached => refused (check.mpr reached.2.2.2.2), rfl⟩
  · rename_i supported
    exact Or.inl ⟨⟨Bool.eq_false_iff.mpr doing, Bool.eq_false_iff.mpr vmDoing, not_not.mp off,
      differs, check.mp (not_not.mp supported)⟩, rfl⟩

theorem effect_object :
    (effectModification newVcpu newTcu context pool).2.pvm =
      { pool.pvm with vcpu := newVcpu, tcu := newTcu } := rfl

/-- With both writes the view takes off the host what the row has grown by. -/
theorem effect_free (saved : pool.row = pool.pvm.toRow) (written : context.tcuWritten = true) :
    host.allFreeTcu (effectModification newVcpu newTcu context pool).2 =
      host.allFreeTcu pool - storedGrowth newVcpu newTcu pool.pvm * pool.row.shown host.oid := by
  have row : (effectModification newVcpu newTcu context pool).2.row =
      { pool.pvm with vcpu := newVcpu, tcu := newTcu }.toRow := by
    simp only [effectModification, VirtualMachinePool.setValue, written, if_true]
  have others : (effectModification newVcpu newTcu context pool).2.others = pool.others := rfl
  have cancelled : (effectModification newVcpu newTcu context pool).2.cancelled =
      pool.cancelled := rfl
  have shown : { pool.pvm with vcpu := newVcpu, tcu := newTcu }.toRow.shown host.oid =
      pool.row.shown host.oid := by
    rw [saved]
    rfl
  have before : pool.row.product = pool.pvm.vcpu.toInt32.toInt * pool.pvm.tcu.toInt32.toInt := by
    rw [saved]
    rfl
  simp only [HostRow.allFreeTcu, HostRow.tcuUsed, row, others, cancelled, List.map_cons,
    List.sum_cons,
    VmRow.usedTcu, shown, before, storedGrowth]
  simp only [VmRow.product, VirtualMachine.toRow]
  ring

theorem toInt32_of_small {word : UInt32} (small : word.toNat < 2 ^ 31) :
    word.toInt32.toInt = word.toNat := by
  have bits : word.toBitVec.toNat < 2 ^ 31 := small
  have cast : word.toInt32.toInt = word.toBitVec.toInt := rfl
  rw [cast, BitVec.toInt_eq_toNat_of_lt (by omega)]
  rfl

theorem small_of_le {word : UInt32} {limit : Int32} (fits : word.toNat ≤ limit.toInt) :
    word.toNat < 2 ^ 31 := by
  have bound := limit.toInt_lt
  omega

theorem shown_nonneg (row : VmRow) (oid : ℤ) : 0 ≤ row.shown oid := by
  unfold VmRow.shown
  split <;> split <;> decide

/-- A machine that is counted once at most, with values that have no sign, takes no more of the
host than the true growth. -/
theorem view_covered (sizes : SizesFit newVcpu newTcu host)
    (once : pool.row.shown host.oid ≤ 1) (vcpu : pool.pvm.vcpu.toNat < 2 ^ 31)
    (tcu : pool.pvm.tcu.toNat < 2 ^ 31) {free : ℤ} (positive : 0 ≤ free)
    (fits : growth newVcpu newTcu pool.pvm ≤ free) :
    storedGrowth newVcpu newTcu pool.pvm * pool.row.shown host.oid ≤ free := by
  have same : storedGrowth newVcpu newTcu pool.pvm = growth newVcpu newTcu pool.pvm := by
    rw [storedGrowth, growth, toInt32_of_small vcpu, toInt32_of_small tcu,
      toInt32_of_small (small_of_le sizes.1), toInt32_of_small (small_of_le sizes.2)]
    ring
  have nonneg := shown_nonneg pool.row host.oid
  obtain none | single : pool.row.shown host.oid = 0 ∨ pool.row.shown host.oid = 1 := by omega
  · rw [none, Int.mul_zero]
    exact positive
  · rw [single, Int.mul_one, same]
    exact fits

end Change

section Agreement

variable {newVcpu newTcu : UInt32} {context : CpuContext} {host : HostRow}
  {pool : VirtualMachinePool}

theorem accepted_iff (bound : pool.pvm.hid = some host.oid) :
    (checkModificationSupport newVcpu newTcu context host pool = .success ↔
      SizesFit newVcpu newTcu host ∧ growth newVcpu newTcu pool.pvm ≤ host.allFreeTcu pool) ↔
    (SizesFit newVcpu newTcu host →
      (selectable context host pool = true ∧
        tcuDifference newVcpu newTcu pool.pvm ≤ host.allFreeTcu pool ↔
      growth newVcpu newTcu pool.pvm ≤ host.allFreeTcu pool)) := by
  rw [check_success_iff bound]
  tauto

/-- A change that comes to its writes is seen in the object, whatever the writes do. -/
theorem reached_differs (reached : Reached newVcpu newTcu context host pool) :
    (effectModification newVcpu newTcu context pool).2 ≠ pool := by
  intro same
  have object := congrArg VirtualMachinePool.pvm same
  rw [effect_object] at object
  cases reached.2.2.2.1 with
  | inl vcpu => exact vcpu (congrArg VirtualMachine.vcpu object).symm
  | inr tcu => exact tcu (congrArg VirtualMachine.tcu object).symm

/-- A change of the CPUs is right exactly when it fits. -/
theorem modifyVmCpu_right_iff (bound : pool.pvm.hid = some host.oid)
    (saved : pool.row = pool.pvm.toRow) :
    ChangeRight newVcpu newTcu context host pool ↔
      ChangeFits newVcpu newTcu context host pool := by
  have cases := @implement_cases newVcpu newTcu context host pool bound
  constructor
  · intro right
    have writes (reached : Reached newVcpu newTcu context host pool) :
        context.vcpuWritten ∧ context.tcuWritten := by
      by_contra unwritten
      have kept := right.unwritten unwritten
      have effect := (cases.resolve_right fun other => other.1 reached).2
      rw [effect] at kept
      exact reached_differs reached kept
    refine ⟨(accepted_iff bound).mp right.accepted, fun reached positive => Or.inr ?_, writes⟩
    have effect := (cases.resolve_right fun other => other.1 reached).2
    have after := right.free (by rw [effect]; rfl) positive
    rw [effect, effect_free saved (writes reached).2] at after
    omega
  · intro fits
    refine ⟨(accepted_iff bound).mpr fits.check, fun _ positive => ?_, fun unwritten => ?_⟩
    · obtain ⟨reached, effect⟩ | ⟨_, kept⟩ := cases
      · have sizes := reached.2.2.2.2.2.1
        have grown := (fits.check sizes).mp ⟨reached.2.2.2.2.1, reached.2.2.2.2.2.2⟩
        have covered : storedGrowth newVcpu newTcu pool.pvm * pool.row.shown host.oid ≤
            host.allFreeTcu pool := by
          obtain ⟨once, vcpu, tcu⟩ | covered := fits.view reached positive
          · exact view_covered sizes once vcpu tcu positive grown
          · exact covered
        rw [effect, effect_free saved (fits.writes reached).2]
        omega
      · rw [kept]
        exact positive
    · obtain ⟨reached, _⟩ | ⟨_, kept⟩ := cases
      · exact absurd (fits.writes reached) unwritten
      · exact kept

end Agreement

section Example

def smallVm : VirtualMachine := ⟨some 3, none, VM_SHUTOFF, 0, 2, 10⟩

def smallPool : VirtualMachinePool := ⟨smallVm, smallVm.toRow, [], []⟩

def smallHost : HostRow := ⟨3, ON_LINE, 0, 0, 16, 40, 640⟩

def allWritten : CpuContext := ⟨false, false, false, true, true⟩

theorem small_change_right :
    ChangeRight 4 20 allWritten smallHost smallPool ↔
      ChangeFits 4 20 allWritten smallHost smallPool :=
  modifyVmCpu_right_iff rfl rfl

/-- The second write fails: the row has the new number of CPUs with the old speed, and the answer
is success. -/
theorem second_write_lost :
    (implement 4 20 { allWritten with tcuWritten := false } smallHost smallPool).1 = .success ∧
      (implement 4 20 { allWritten with tcuWritten := false } smallHost smallPool).2.row =
        { smallVm.toRow with vcpu := 4 } ∧
      ¬ ChangeRight 4 20 { allWritten with tcuWritten := false } smallHost smallPool := by
  refine ⟨by decide, by decide, fun right => ?_⟩
  exact absurd (right.unwritten (by decide)) (by decide)

/-- The new product wraps to zero: a host that has nothing free takes the change. -/
example : tcuDifference 65536 65536 smallVm = -20 ∧
    growth 65536 65536 smallVm = 4294967276 := by decide

end Example

end Tecs.Vm.ModifyCpu
