import Tecs.Library.Run
import Tecs.Sky.Errcode

set_option autoImplicit false

/-! Requests that put a pair of virtual machines into each other's lists, or take it out. -/

namespace Tecs

def Status.errObjectUpdateFailed : Status := error + 36
def Status.errVmcfgModifyForbidden : Status := 8010

namespace Vm

open Transition

section Definitions

def INVALID_HID : ℤ := -1

structure VirtualMachine where
  hid : ℤ
  repelVms : List ℤ
deriving Repr, DecidableEq

/-- The machines of the pool; it stops where a thread waits for a lock that it holds itself. -/
structure VirtualMachinePool where
  vms : ℤ → Option VirtualMachine
  stopped : Bool

inductive VmCfgOperation
  | insert | delete | update
deriving Repr, DecidableEq

structure VmCfgModifyIndividualItem where
  vid : ℤ
  operation : VmCfgOperation
  src : ℤ
  des : ℤ
deriving Repr, DecidableEq

/-- What the databases answer to a request. -/
structure VmOpContext where
  isDoing : Bool
  vmDoing : Bool
  selectFails : Bool
  desSelectFails : Bool
  committed : Bool
deriving Repr, DecidableEq

/-- The two ids behind `AnalysisCommonModifyStruct`, the machine of the request first if it is one
of them. -/
def VmCfgModifyIndividualItem.srcVid (item : VmCfgModifyIndividualItem) : ℤ :=
  if item.vid = item.des then item.vid else item.src

def VmCfgModifyIndividualItem.desVid (item : VmCfgModifyIndividualItem) : ℤ :=
  if item.vid = item.des then item.src else item.des

def isVmcfgChanged (operation : VmCfgOperation) (desVid : ℤ) (pvm : VirtualMachine) : Bool :=
  match operation with
  | .insert => !pvm.repelVms.contains desVid
  | .delete => pvm.repelVms.contains desVid
  | .update => false

/-- Only an insertion asks for the host of the other machine. -/
def checkHostSupport (operation : VmCfgOperation) (desVid : ℤ) (context : VmOpContext)
    (pvm : VirtualMachine) (pool : VirtualMachinePool) : Status :=
  match operation with
  | .delete => .success
  | .update => .errVmcfgModifyForbidden
  | .insert =>
      if !context.selectFails && (pool.vms desVid).all (·.hid ≠ pvm.hid) then .success
      else .errObjectUpdateFailed

def checkModificationSupport (operation : VmCfgOperation) (desVid : ℤ) (context : VmOpContext)
    (pvm : VirtualMachine) (pool : VirtualMachinePool) : Status :=
  if pvm.hid = INVALID_HID then .success
  else checkHostSupport operation desVid context pvm pool

def modifyMutex (operation : VmCfgOperation) (desVid : ℤ) (repelVms : List ℤ) : List ℤ :=
  match operation with
  | .insert => repelVms ++ [desVid]
  | .delete => repelVms.filter (· ≠ desVid)
  | .update => repelVms

def VirtualMachinePool.put (pool : VirtualMachinePool) (vid : ℤ) (pvm : VirtualMachine) :
    VirtualMachinePool :=
  { pool with vms := Function.update pool.vms vid (some pvm) }

/-- `PoolSQL::Get` of the second machine: no object where its row cannot be read either. -/
def VirtualMachinePool.getDes (pool : VirtualMachinePool) (desVid : ℤ) (context : VmOpContext) :
    Option VirtualMachine :=
  if context.desSelectFails then none else pool.vms desVid

/-- Both machines are locked, the second one after the list of the first was changed; there is no
answer where they are the same, or the first does not exist. -/
def effectModification (item : VmCfgModifyIndividualItem) (context : VmOpContext)
    (pool : VirtualMachinePool) : Option Status × VirtualMachinePool :=
  match pool.vms item.srcVid with
  | none => (none, { pool with stopped := true })
  | some pvm1 =>
      let pool := pool.put item.srcVid
        { pvm1 with repelVms := modifyMutex item.operation item.desVid pvm1.repelVms }
      if item.desVid = item.srcVid then (none, { pool with stopped := true })
      else
        let ret : Status := if context.committed then .success else .errorDbUpdateFail
        match pool.getDes item.desVid context with
        | none => (some ret, pool)
        | some pvm2 =>
            (some ret, pool.put item.desVid
              { pvm2 with repelVms := modifyMutex item.operation item.srcVid pvm2.repelVms })

/-- `ModifyVmMutex::Implement`. -/
def implement (item : VmCfgModifyIndividualItem) (context : VmOpContext)
    (pool : VirtualMachinePool) : Option Status × VirtualMachinePool :=
  match pool.vms item.vid with
  | none => (some .errObjectNotExist, pool)
  | some pvm =>
      if context.isDoing then (some .errorActionRunning, pool)
      else if context.vmDoing then (some .errorPermissionDenied, pool)
      else if !isVmcfgChanged item.operation item.desVid pvm then (some .success, pool)
      else
        let ret := checkModificationSupport item.operation item.desVid context pvm pool
        if ret ≠ .success then (some ret, pool) else effectModification item context pool

/-- A request, or a machine that comes to another host. -/
inductive VmPoolLabel
  | modify (item : VmCfgModifyIndividualItem) (context : VmOpContext)
  | setHid (vid hid : ℤ)
deriving Repr, DecidableEq

def VirtualMachinePool.next (pool : VirtualMachinePool) : VmPoolLabel → VirtualMachinePool
  | .modify item context => (implement item context pool).2
  | .setHid vid hid =>
      match pool.vms vid with
      | none => pool
      | some pvm => pool.put vid { pvm with hid }

/-- A request goes to one of the machines that it names. -/
def VmPoolLabel.Addressed : VmPoolLabel → Prop
  | .modify item _ => item.vid = item.src ∨ item.vid = item.des
  | .setHid _ _ => True

def VmPoolStep (pool : VirtualMachinePool) (label : VmPoolLabel) (next : VirtualMachinePool) :
    Prop :=
  pool.stopped = false ∧ label.Addressed ∧ next = pool.next label

/-- The lists of the machines in the pool, read as a relation. -/
structure VirtualMachinePool.Consistent (pool : VirtualMachinePool) : Prop where
  symmetric : ∀ a b vmA vmB, pool.vms a = some vmA → pool.vms b = some vmB →
    (b ∈ vmA.repelVms ↔ a ∈ vmB.repelVms)
  irreflexive : ∀ a vm, pool.vms a = some vm → a ∉ vm.repelVms
  nodup : ∀ a vm, pool.vms a = some vm → vm.repelVms.Nodup

/-- What a request has done when it is answered. -/
structure Served (item : VmCfgModifyIndividualItem) (answer : Option Status)
    (pool next : VirtualMachinePool) : Prop where
  inserted : answer = some .success → item.operation = .insert →
    (∀ vm, next.vms item.src = some vm → item.des ∈ vm.repelVms) ∧
      ∀ vm, next.vms item.des = some vm → item.src ∈ vm.repelVms
  deleted : answer = some .success → item.operation = .delete →
    (∀ vm, next.vms item.src = some vm → item.des ∉ vm.repelVms) ∧
      ∀ vm, next.vms item.des = some vm → item.src ∉ vm.repelVms
  apart : answer = some .success → item.operation = .insert →
    ∀ a b old vmA vmB, pool.vms a = some old → next.vms a = some vmA → next.vms b = some vmB →
      b ∉ old.repelVms → b ∈ vmA.repelVms → vmA.hid = vmB.hid → vmA.hid = INVALID_HID
  refused : ∀ status, answer = some status → status ≠ .success →
    ∀ vid, (next.vms vid).map (·.repelVms) = (pool.vms vid).map (·.repelVms)

def VmPoolLabel.Served (pool : VirtualMachinePool) : VmPoolLabel → VirtualMachinePool → Prop
  | .modify item context, next => Vm.Served item (implement item context pool).1 pool next
  | .setHid _ _, _ => True

/-- The steps after which the lists are consistent and the request was served. -/
def MutexStep (pool : VirtualMachinePool) (label : VmPoolLabel) (next : VirtualMachinePool) :
    Prop :=
  VmPoolStep pool label next ∧ next.Consistent ∧ label.Served pool next

/-- The machine exists, nothing is done with it, its list changes and the hosts allow it. -/
structure TakesEffect (item : VmCfgModifyIndividualItem) (context : VmOpContext)
    (pool : VirtualMachinePool) (pvm : VirtualMachine) : Prop where
  found : pool.vms item.vid = some pvm
  notDoing : context.isDoing = false
  idle : context.vmDoing = false
  changed : isVmcfgChanged item.operation item.desVid pvm = true
  support : checkModificationSupport item.operation item.desVid context pvm pool = .success

/-- A request that takes effect names two machines, the second one is loaded if it exists, and the
transaction is committed. -/
def Orderly (pool : VirtualMachinePool) : VmPoolLabel → Prop
  | .modify item context =>
      ∀ pvm, TakesEffect item context pool pvm → item.src ≠ item.des ∧
        pool.getDes item.desVid context = pool.vms item.desVid ∧ context.committed = true
  | .setHid _ _ => True

end Definitions

section Requests

variable {item : VmCfgModifyIndividualItem} {context : VmOpContext} {pool : VirtualMachinePool}
  {pvm : VirtualMachine}

theorem srcVid_eq (addressed : item.vid = item.src ∨ item.vid = item.des) :
    item.srcVid = item.vid := by
  rw [VmCfgModifyIndividualItem.srcVid]
  split
  · rfl
  · next other => exact (addressed.resolve_right other).symm

/-- The two ids of a request are its machine and the other one, in one order or the other. -/
theorem pair_cases (addressed : item.vid = item.src ∨ item.vid = item.des) :
    item.src = item.vid ∧ item.des = item.desVid ∨
      item.src = item.desVid ∧ item.des = item.vid := by
  rw [VmCfgModifyIndividualItem.desVid]
  split
  · next same => exact .inr ⟨rfl, same.symm⟩
  · next other => exact .inl ⟨(addressed.resolve_right other).symm, rfl⟩

theorem desVid_ne_iff (addressed : item.vid = item.src ∨ item.vid = item.des) :
    item.desVid ≠ item.vid ↔ item.src ≠ item.des := by
  rcases pair_cases addressed with ⟨src, des⟩ | ⟨src, des⟩
  · rw [src, des]
    exact ne_comm
  · rw [src, des]

theorem implement_effect (effect : TakesEffect item context pool pvm) :
    implement item context pool = effectModification item context pool := by
  rw [implement, effect.found]
  simp only [effect.notDoing, effect.idle, effect.changed, effect.support]
  rfl

/-- Without an effect there is an answer, and success only where there was nothing to do. -/
theorem implement_idle (idle : ∀ pvm, ¬ TakesEffect item context pool pvm) :
    (implement item context pool).2 = pool ∧
      ∃ status, (implement item context pool).1 = some status ∧
        (status = .success → ∃ pvm, pool.vms item.vid = some pvm ∧
          isVmcfgChanged item.operation item.desVid pvm = false) := by
  rw [implement]
  cases found : pool.vms item.vid with
  | none => exact ⟨rfl, _, rfl, fun success => absurd success (by decide)⟩
  | some pvm =>
      dsimp only
      split
      · exact ⟨rfl, _, rfl, fun success => absurd success (by decide)⟩
      next notDoing =>
      split
      · exact ⟨rfl, _, rfl, fun success => absurd success (by decide)⟩
      next free =>
      split
      · next same => exact ⟨rfl, _, rfl, fun _ => ⟨pvm, rfl, by simpa using same⟩⟩
      next changed =>
      split
      · next refused => exact ⟨rfl, _, rfl, fun success => absurd success refused⟩
      · next support =>
        exact absurd ⟨found, by simpa using notDoing, by simpa using free, by simpa using changed,
          not_not.mp support⟩ (idle pvm)

theorem mem_modifyMutex {operation : VmCfgOperation} {desVid b : ℤ} {repelVms : List ℤ} :
    b ∈ modifyMutex operation desVid repelVms ↔
      match operation with
      | .insert => b ∈ repelVms ∨ b = desVid
      | .delete => b ∈ repelVms ∧ b ≠ desVid
      | .update => b ∈ repelVms := by
  cases operation <;> simp [modifyMutex]

end Requests

section Effects

variable {item : VmCfgModifyIndividualItem} {context : VmOpContext} {pool : VirtualMachinePool}
  {pvm : VirtualMachine}

/-- The list of each machine after the lists of the pair were modified. -/
def modifyPair (operation : VmCfgOperation) (first second x : ℤ) (vm : VirtualMachine) :
    VirtualMachine :=
  if x = first then { vm with repelVms := modifyMutex operation second vm.repelVms }
  else if x = second then { vm with repelVms := modifyMutex operation first vm.repelVms }
  else vm

theorem modifyPair_other {operation : VmCfgOperation} {first second x : ℤ} (one : x ≠ first)
    (two : x ≠ second) : modifyPair operation first second x = id := by
  funext vm
  rw [modifyPair, if_neg one, if_neg two]
  rfl

theorem modifyPair_hid (operation : VmCfgOperation) (first second x : ℤ) (vm : VirtualMachine) :
    (modifyPair operation first second x vm).hid = vm.hid := by
  rw [modifyPair]
  split
  · rfl
  · split <;> rfl

/-- The machine of one of the two ids, with the other id. -/
def Pair (first second x b : ℤ) : Prop := x = first ∧ b = second ∨ x = second ∧ b = first

theorem Pair.symm {first second x b : ℤ} (pair : Pair first second x b) :
    Pair first second b x := by
  rcases pair with ⟨one, two⟩ | ⟨one, two⟩
  · exact .inr ⟨two, one⟩
  · exact .inl ⟨two, one⟩

theorem pair_comm {first second x b : ℤ} : Pair first second x b ↔ Pair first second b x :=
  ⟨Pair.symm, Pair.symm⟩

theorem mem_insertPair {first second x b : ℤ} (different : second ≠ first)
    (vm : VirtualMachine) :
    b ∈ (modifyPair .insert first second x vm).repelVms ↔
      b ∈ vm.repelVms ∨ Pair first second x b := by
  rw [modifyPair, Pair]
  split
  · next here => simp [here, mem_modifyMutex, different.symm]
  · next other =>
    split
    · next here => simp [here, mem_modifyMutex, different]
    · next neither => simp [other, neither]

theorem mem_deletePair {first second x b : ℤ} (different : second ≠ first)
    (vm : VirtualMachine) :
    b ∈ (modifyPair .delete first second x vm).repelVms ↔
      b ∈ vm.repelVms ∧ ¬ Pair first second x b := by
  rw [modifyPair, Pair]
  split
  · next here => simp [here, mem_modifyMutex, different.symm]
  · next other =>
    split
    · next here => simp [here, mem_modifyMutex, different]
    · next neither => simp [other, neither]

theorem getDes_put {vid desVid : ℤ} (different : desVid ≠ vid) :
    (pool.put vid pvm).getDes desVid context = pool.getDes desVid context := by
  rw [VirtualMachinePool.getDes, VirtualMachinePool.put]
  dsimp only
  rw [Function.update_of_ne different]
  rfl

theorem effectModification_pair (found : pool.vms item.srcVid = some pvm)
    (different : item.desVid ≠ item.srcVid)
    (loaded : pool.getDes item.desVid context = pool.vms item.desVid) (x : ℤ) :
    (effectModification item context pool).2.vms x =
      (pool.vms x).map (modifyPair item.operation item.srcVid item.desVid x) := by
  rw [effectModification, found]
  dsimp only
  rw [if_neg different, getDes_put different, loaded]
  dsimp only [VirtualMachinePool.put]
  by_cases first : x = item.srcVid
  · rw [first, found]
    split
    · simp [modifyPair]
    · simp [modifyPair, different.symm]
  · by_cases second : x = item.desVid
    · rw [second]
      split
      · next absent => simp [different, absent]
      · next pvm2 there => simp [modifyPair, different, there]
    · split
      · simp [first, modifyPair_other first second]
      · simp [first, second, modifyPair_other first second]

/-- The list of a second machine that is not loaded stays as it is. -/
theorem effectModification_unloaded (found : pool.vms item.srcVid = some pvm)
    (different : item.desVid ≠ item.srcVid)
    (unloaded : pool.getDes item.desVid context ≠ pool.vms item.desVid) :
    (effectModification item context pool).2.vms item.desVid = pool.vms item.desVid := by
  have none : pool.getDes item.desVid context = none := by
    rw [VirtualMachinePool.getDes] at unloaded ⊢
    split
    · rfl
    · next reads => exact absurd (if_neg reads) unloaded
  rw [effectModification, found]
  dsimp only
  rw [if_neg different, getDes_put different, none]
  exact Function.update_of_ne different _ _

theorem effectModification_answer (context : VmOpContext)
    (found : pool.vms item.srcVid = some pvm)
    (different : item.desVid ≠ item.srcVid) :
    (effectModification item context pool).1 =
      some (if context.committed then .success else .errorDbUpdateFail) := by
  rw [effectModification, found]
  dsimp only
  rw [if_neg different]
  split <;> rfl

/-- The list of the first machine changes in any case. -/
theorem effectModification_first (context : VmOpContext)
    (found : pool.vms item.srcVid = some pvm) :
    (effectModification item context pool).2.vms item.srcVid =
      some { pvm with repelVms := modifyMutex item.operation item.desVid pvm.repelVms } := by
  rw [effectModification, found]
  dsimp only
  split
  · exact Function.update_self _ _ _
  next different =>
  split
  · exact Function.update_self _ _ _
  · dsimp only [VirtualMachinePool.put]
    rw [Function.update_of_ne (Ne.symm different)]
    exact Function.update_self _ _ _

end Effects

section Steps

variable {item : VmCfgModifyIndividualItem} {context : VmOpContext}
  {pool next : VirtualMachinePool} {pvm : VirtualMachine} {operation : VmCfgOperation}
  {first second : ℤ}

/-- The other machine of a pair does not know of the first before an insertion. -/
theorem fresh_both (consistent : pool.Consistent) (found : pool.vms first = some pvm)
    (fresh : second ∉ pvm.repelVms) (different : second ≠ first) {x : ℤ} {vm : VirtualMachine}
    (there : pool.vms x = some vm) :
    (modifyPair .insert first second x vm).repelVms.Nodup := by
  have nodup := consistent.nodup x vm there
  rw [modifyPair]
  split
  · next here =>
    rw [here, found] at there
    obtain rfl := Option.some.inj there
    exact List.nodup_append.mpr ⟨nodup, List.nodup_singleton _, by
      rintro a mem b own rfl
      obtain rfl := List.mem_singleton.mp own
      exact fresh mem⟩
  · split
    · next here =>
      have unknown : first ∉ vm.repelVms := by
        rw [consistent.symmetric x first vm pvm there found, here]
        exact fresh
      exact List.nodup_append.mpr ⟨nodup, List.nodup_singleton _, by
        rintro a mem b own rfl
        obtain rfl := List.mem_singleton.mp own
        exact unknown mem⟩
    · exact nodup

/-- Both lists of a pair of different machines change, and the lists stay consistent. -/
theorem modified_consistent (consistent : pool.Consistent) (found : pool.vms first = some pvm)
    (different : second ≠ first) (changed : isVmcfgChanged operation second pvm = true)
    (lookup : ∀ x, next.vms x = (pool.vms x).map (modifyPair operation first second x)) :
    next.Consistent := by
  have old {x : ℤ} {vm : VirtualMachine} (there : next.vms x = some vm) :
      ∃ vm', pool.vms x = some vm' ∧ modifyPair operation first second x vm' = vm := by
    rw [lookup] at there
    exact Option.map_eq_some_iff.mp there
  cases operation with
  | insert =>
      have fresh : second ∉ pvm.repelVms := by simpa [isVmcfgChanged] using changed
      refine ⟨fun a b vmA vmB hereA hereB => ?_, fun a vm here => ?_, fun a vm here => ?_⟩
      · obtain ⟨oldA, thereA, rfl⟩ := old hereA
        obtain ⟨oldB, thereB, rfl⟩ := old hereB
        rw [mem_insertPair different, mem_insertPair different,
          consistent.symmetric a b oldA oldB thereA thereB, pair_comm]
      · obtain ⟨vm', there, rfl⟩ := old here
        rw [mem_insertPair different]
        rintro (mem | ⟨one, two⟩ | ⟨one, two⟩)
        · exact consistent.irreflexive a vm' there mem
        · exact different (two.symm.trans one)
        · exact different (one.symm.trans two)
      · obtain ⟨vm', there, rfl⟩ := old here
        exact fresh_both consistent found fresh different there
  | delete =>
      refine ⟨fun a b vmA vmB hereA hereB => ?_, fun a vm here => ?_, fun a vm here => ?_⟩
      · obtain ⟨oldA, thereA, rfl⟩ := old hereA
        obtain ⟨oldB, thereB, rfl⟩ := old hereB
        rw [mem_deletePair different, mem_deletePair different,
          consistent.symmetric a b oldA oldB thereA thereB, pair_comm]
      · obtain ⟨vm', there, rfl⟩ := old here
        rw [mem_deletePair different]
        exact fun both => consistent.irreflexive a vm' there both.1
      · obtain ⟨vm', there, rfl⟩ := old here
        have nodup := consistent.nodup a vm' there
        rw [modifyPair]
        split
        · exact nodup.filter _
        · split
          · exact nodup.filter _
          · exact nodup
  | update => cases changed

theorem host_apart {desVid : ℤ} {other : VirtualMachine}
    (support : checkModificationSupport .insert desVid context pvm pool = .success)
    (there : pool.vms desVid = some other) (same : other.hid = pvm.hid) :
    pvm.hid = INVALID_HID := by
  rw [checkModificationSupport] at support
  split at support
  · assumption
  · rw [checkHostSupport] at support
    split at support
    · next apart => simp [there, same] at apart
    · exact absurd support (by decide)

/-- A request that takes effect on two machines, its transaction committed, is served. -/
theorem modified_served (found : pool.vms item.vid = some pvm)
    (addressed : item.vid = item.src ∨ item.vid = item.des) (different : item.desVid ≠ item.vid)
    (support : checkModificationSupport item.operation item.desVid context pvm pool = .success)
    (lookup : ∀ x, next.vms x =
      (pool.vms x).map (modifyPair item.operation item.vid item.desVid x)) :
    Served item (some .success) pool next := by
  have old {x : ℤ} {vm : VirtualMachine} (there : next.vms x = some vm) :
      ∃ vm', pool.vms x = some vm' ∧ modifyPair item.operation item.vid item.desVid x vm' = vm := by
    rw [lookup] at there
    exact Option.map_eq_some_iff.mp there
  have pair : Pair item.vid item.desVid item.src item.des := pair_cases addressed
  refine ⟨fun _ insert => ⟨fun vm here => ?_, fun vm here => ?_⟩,
    fun _ delete => ⟨fun vm here => ?_, fun vm here => ?_⟩, ?_, ?_⟩
  · obtain ⟨vm', there, rfl⟩ := old here
    rw [insert, mem_insertPair different]
    exact .inr pair
  · obtain ⟨vm', there, rfl⟩ := old here
    rw [insert, mem_insertPair different]
    exact .inr pair.symm
  · obtain ⟨vm', there, rfl⟩ := old here
    rw [delete, mem_deletePair different]
    exact fun both => both.2 pair
  · obtain ⟨vm', there, rfl⟩ := old here
    rw [delete, mem_deletePair different]
    exact fun both => both.2 pair.symm
  · intro _ insert a b oldA vmA vmB thereA hereA hereB unknown known same
    obtain ⟨oldA', thereA', rfl⟩ := old hereA
    obtain ⟨oldB, thereB, rfl⟩ := old hereB
    obtain rfl := Option.some.inj (thereA.symm.trans thereA')
    rw [insert] at support
    rw [insert, mem_insertPair different] at known
    rw [modifyPair_hid, modifyPair_hid] at same
    rw [modifyPair_hid]
    rcases known.resolve_left unknown with ⟨rfl, rfl⟩ | ⟨rfl, rfl⟩
    · obtain rfl := Option.some.inj (thereA.symm.trans found)
      exact host_apart support thereB same.symm
    · obtain rfl := Option.some.inj (thereB.symm.trans found)
      rw [same]
      exact host_apart support thereA same
  · exact fun status eq refused => absurd (Option.some.inj eq).symm refused

/-- A request that finds nothing to do was served before. -/
theorem idle_served (consistent : pool.Consistent)
    (addressed : item.vid = item.src ∨ item.vid = item.des)
    {status : Status} (nothing : status = .success → ∃ pvm, pool.vms item.vid = some pvm ∧
      isVmcfgChanged item.operation item.desVid pvm = false) :
    Served item (some status) pool pool := by
  have both (success : status = .success) : ∃ pvm, pool.vms item.vid = some pvm ∧
      isVmcfgChanged item.operation item.desVid pvm = false ∧
      ∀ x b vm, Pair item.vid item.desVid x b → pool.vms x = some vm →
        (b ∈ vm.repelVms ↔ item.desVid ∈ pvm.repelVms) := by
    obtain ⟨pvm, found, same⟩ := nothing success
    refine ⟨pvm, found, same, ?_⟩
    rintro x b vm (⟨rfl, rfl⟩ | ⟨rfl, rfl⟩) there
    · obtain rfl := Option.some.inj (there.symm.trans found)
      rfl
    · exact consistent.symmetric _ _ vm pvm there found
  have pair : Pair item.vid item.desVid item.src item.des := pair_cases addressed
  refine ⟨fun success insert => ?_, fun success delete => ?_, ?_, fun _ _ _ _ => rfl⟩
  · obtain ⟨pvm, found, same, known⟩ := both (Option.some.inj success)
    have there : item.desVid ∈ pvm.repelVms := by simpa [insert, isVmcfgChanged] using same
    exact ⟨fun vm here => (known _ _ vm pair here).mpr there,
      fun vm here => (known _ _ vm pair.symm here).mpr there⟩
  · obtain ⟨pvm, found, same, known⟩ := both (Option.some.inj success)
    have absent : item.desVid ∉ pvm.repelVms := by simpa [delete, isVmcfgChanged] using same
    exact ⟨fun vm here => mt (known _ _ vm pair here).mp absent,
      fun vm here => mt (known _ _ vm pair.symm here).mp absent⟩
  · intro _ _ a b old vmA vmB there here _ unknown known
    obtain rfl := Option.some.inj (there.symm.trans here)
    exact absurd known unknown

/-- Only the host of a machine changes. -/
theorem setHid_consistent (consistent : pool.Consistent) (vid hid : ℤ) :
    (pool.next (.setHid vid hid)).Consistent := by
  rw [VirtualMachinePool.next]
  split
  · exact consistent
  next pvm found =>
  have old {x : ℤ} {vm : VirtualMachine} (there : (pool.put vid { pvm with hid }).vms x = some vm) :
      ∃ vm', pool.vms x = some vm' ∧ vm'.repelVms = vm.repelVms := by
    dsimp only [VirtualMachinePool.put] at there
    by_cases same : x = vid
    · rw [same, Function.update_self] at there
      obtain rfl := Option.some.inj there
      exact ⟨pvm, same ▸ found, rfl⟩
    · rw [Function.update_of_ne same] at there
      exact ⟨vm, there, rfl⟩
  refine ⟨fun a b vmA vmB hereA hereB => ?_, fun a vm here => ?_, fun a vm here => ?_⟩
  · obtain ⟨oldA, thereA, sameA⟩ := old hereA
    obtain ⟨oldB, thereB, sameB⟩ := old hereB
    rw [← sameA, ← sameB]
    exact consistent.symmetric a b oldA oldB thereA thereB
  · obtain ⟨vm', there, same⟩ := old here
    rw [← same]
    exact consistent.irreflexive a vm' there
  · obtain ⟨vm', there, same⟩ := old here
    rw [← same]
    exact consistent.nodup a vm' there

/-- An orderly step keeps the lists consistent, and serves the request. -/
theorem orderly_step {label : VmPoolLabel} (consistent : pool.Consistent)
    (orderly : Orderly pool label) (taken : VmPoolStep pool label next) :
    MutexStep pool label next := by
  refine ⟨taken, ?_⟩
  obtain ⟨-, addressed, rfl⟩ := taken
  cases label with
  | setHid vid hid => exact ⟨setHid_consistent consistent vid hid, trivial⟩
  | modify item context =>
      change (implement item context pool).2.Consistent ∧
        Served item (implement item context pool).1 pool (implement item context pool).2
      by_cases effect : ∃ pvm, TakesEffect item context pool pvm
      · obtain ⟨pvm, effect⟩ := effect
        have ⟨apart, loaded, committed⟩ := orderly pvm effect
        have src := srcVid_eq addressed
        have different := (desVid_ne_iff addressed).mpr apart
        have found : pool.vms item.srcVid = some pvm := src.symm ▸ effect.found
        have lookup := effectModification_pair found (src.symm ▸ different) loaded
        have answer := effectModification_answer context found (src.symm ▸ different)
        rw [src] at lookup
        rw [committed, if_pos rfl] at answer
        rw [implement_effect effect, answer]
        exact ⟨modified_consistent consistent effect.found different effect.changed lookup,
          modified_served effect.found addressed different effect.support lookup⟩
      · have ⟨stays, status, answer, nothing⟩ := implement_idle (not_exists.mp effect)
        rw [stays, answer]
        exact ⟨consistent, idle_served consistent addressed nothing⟩

/-- A list that changes is not the same afterwards. -/
theorem modifyMutex_ne (changed : isVmcfgChanged operation second pvm = true) :
    modifyMutex operation second pvm.repelVms ≠ pvm.repelVms := by
  intro same
  have mem : second ∈ modifyMutex operation second pvm.repelVms ↔ second ∈ pvm.repelVms := by
    rw [same]
  rw [mem_modifyMutex] at mem
  cases operation with
  | insert => simp_all [isVmcfgChanged]
  | delete => simp_all [isVmcfgChanged]
  | update => cases changed

/-- A request that changes only the first list leaves the pair out of step. -/
theorem unloaded_asymmetric (consistent : pool.Consistent)
    (effect : TakesEffect item context pool pvm) (addressed : item.srcVid = item.vid)
    (different : item.desVid ≠ item.srcVid)
    (unloaded : pool.getDes item.desVid context ≠ pool.vms item.desVid) :
    ¬ (effectModification item context pool).2.Consistent := by
  intro consistent'
  have found : pool.vms item.srcVid = some pvm := addressed.symm ▸ effect.found
  have own := effectModification_first context found
  have other := effectModification_unloaded found different unloaded
  cases there : pool.vms item.desVid with
  | none =>
      rw [VirtualMachinePool.getDes, there, ite_self] at unloaded
      exact unloaded rfl
  | some pvm2 =>
      rw [there] at other
      have before := consistent.symmetric _ _ pvm pvm2 found there
      have after := consistent'.symmetric _ _ _ pvm2 own other
      have changed := effect.changed
      rw [mem_modifyMutex, ← before] at after
      cases operation : item.operation <;>
        simp_all [isVmcfgChanged]

/-- A request that takes effect otherwise breaks the lists, or fails after it changed them. -/
theorem step_orderly {label : VmPoolLabel} (consistent : pool.Consistent)
    (taken : MutexStep pool label next) : Orderly pool label := by
  obtain ⟨⟨-, addressed, rfl⟩, consistent', served⟩ := taken
  cases label with
  | setHid vid hid => trivial
  | modify item context =>
      intro pvm effect
      change (implement item context pool).2.Consistent at consistent'
      change Served item (implement item context pool).1 pool (implement item context pool).2
        at served
      rw [implement_effect effect] at consistent' served
      have src := srcVid_eq addressed
      have found : pool.vms item.srcVid = some pvm := src.symm ▸ effect.found
      by_cases same : item.desVid = item.vid
      · have own := effectModification_first context found
        have unknown := consistent'.irreflexive _ _ own
        have absent := consistent.irreflexive _ _ effect.found
        have changed := effect.changed
        rw [mem_modifyMutex] at unknown
        rw [same] at changed unknown
        cases operation : item.operation <;>
          simp_all [isVmcfgChanged]
      · have apart : item.desVid ≠ item.srcVid := src.symm ▸ same
        refine ⟨(desVid_ne_iff addressed).mp same, ?_, ?_⟩
        · by_contra unloaded
          exact unloaded_asymmetric consistent effect src apart unloaded consistent'
        · by_contra failed
          have answer := effectModification_answer context found apart
          rw [if_neg failed] at answer
          have stays := served.refused _ answer (by decide) item.srcVid
          rw [effectModification_first context found, found] at stays
          exact modifyMutex_ne effect.changed (Option.some.inj stays)

/-- In a run from consistent lists every request keeps them so and is served, exactly if every
request that takes effect names two machines, loads the second one and is committed. -/
theorem mutex_iff_orderly (pool : VirtualMachinePool) (consistent : pool.Consistent)
    (labels : List VmPoolLabel) (last : VirtualMachinePool) :
    Run MutexStep pool labels last ↔ Run (Guarded Orderly VmPoolStep) pool labels last := by
  constructor
  · intro run
    refine run.convert consistent fun before label after consistent taken => ?_
    exact ⟨⟨step_orderly consistent taken, taken.1⟩, taken.2.1⟩
  · intro run
    refine run.convert consistent fun before label after consistent taken => ?_
    have step := orderly_step consistent taken.1 taken.2
    exact ⟨step, step.2.1⟩

end Steps

section Examples

/-- Two machines that are on no host. -/
def examplePool : VirtualMachinePool :=
  ⟨fun vid => if vid = 1 ∨ vid = 2 then some ⟨INVALID_HID, []⟩ else none, false⟩

theorem examplePool_found {vid : ℤ} {vm : VirtualMachine}
    (found : examplePool.vms vid = some vm) : vm = ⟨INVALID_HID, []⟩ := by
  dsimp only [examplePool] at found
  split at found
  · exact (Option.some.inj found).symm
  · cases found

theorem examplePool_consistent : examplePool.Consistent := by
  refine ⟨fun a b vmA vmB hereA hereB => ?_, fun a vm here => ?_, fun a vm here => ?_⟩
  · rw [examplePool_found hereA, examplePool_found hereB]
    simp
  · rw [examplePool_found here]
    exact List.not_mem_nil
  · rw [examplePool_found here]
    exact List.nodup_nil

/-- A request to the second machine, that the first one names as its source. -/
theorem mutex_inserted :
    Run MutexStep examplePool [.modify ⟨2, .insert, 1, 2⟩ ⟨false, false, false, false, true⟩]
      (examplePool.next (.modify ⟨2, .insert, 1, 2⟩ ⟨false, false, false, false, true⟩)) :=
  (mutex_iff_orderly examplePool examplePool_consistent _ _).mpr
    (Run.single ⟨fun _ _ => ⟨by decide, rfl, rfl⟩, rfl, .inr rfl, rfl⟩)

/-- A machine is put into its own list, and a transaction fails after the lists have changed. -/
theorem not_served :
    (¬ ∀ pool labels last, pool.Consistent → Run VmPoolStep pool labels last →
        last.Consistent) ∧
      ¬ ∀ pool label next, pool.Consistent → VmPoolStep pool label next →
        label.Served pool next := by
  constructor
  · intro all
    have run : Run VmPoolStep examplePool
        [.modify ⟨1, .insert, 1, 1⟩ ⟨false, false, false, false, true⟩] _ :=
      Run.single ⟨rfl, .inl rfl, rfl⟩
    have own := (all _ _ _ examplePool_consistent run).irreflexive 1 ⟨INVALID_HID, [1]⟩ (by decide)
    exact own (List.mem_singleton_self _)
  · intro all
    have served := all examplePool
      (.modify ⟨1, .insert, 1, 2⟩ ⟨false, false, false, false, false⟩) _ examplePool_consistent
      ⟨rfl, .inl rfl, rfl⟩
    have stays := served.refused .errorDbUpdateFail (by decide) (by decide) 1
    revert stays
    decide

end Examples

end Vm

end Tecs
