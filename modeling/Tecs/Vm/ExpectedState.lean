import Tecs.Sky.Errcode
import Tecs.Vm.VmOperations

set_option autoImplicit false

/-! The state that a machine is expected to be in, which its operations write and the monitor reads
when it starts machines again. -/

namespace Tecs.Vm.ExpectedState

section Definitions

structure VirtualMachine where
  expectedState : VmInstanceState
  state : VmInstanceState
deriving Repr, DecidableEq

/-- What an operation finds and what it is answered: whether the machine is in the pool, whether
the workflow of its deployment runs, the progress of its cancellation if that runs, and the results
of `RollbackWorkflow`, of `CreateWorkflow`, and of the operations that have checks of their own. -/
structure OpOutcome where
  vmExists : Bool
  deploying : Bool
  canceling : Option ℤ
  rollback : Status
  created : Status
  other : Status
deriving Repr, DecidableEq

/-- The case of a pause has no end of its own and goes on to the default, which writes nothing. -/
def setExpectedState (op : VmOperation) (pvm : Option VirtualMachine) : Option VirtualMachine :=
  match op with
  | .create | .start | .resume => pvm.map fun vm => { vm with expectedState := .running }
  | .destroy | .stop | .cancel => pvm.map fun vm => { vm with expectedState := .shutoff }
  | _ => pvm

variable (outcome : OpOutcome)

def doCommonOp : Status :=
  if outcome.created = .success then .errorActionRunning else outcome.created

def operateCancelVM : Status :=
  if outcome.deploying then
    if outcome.rollback = .success then .errorActionRunning else outcome.rollback
  else
    match outcome.canceling with
    | some progress => if progress = 100 then .success else .errorActionRunning
    | none =>
        if outcome.vmExists then
          if outcome.created = .success then .errorActionRunning else outcome.created
        else .success

/-- `DoOperation`, with the machine in the state that it leaves it in. -/
def doOperation (op : VmOperation) (pvm : Option VirtualMachine) :
    Status × Option VirtualMachine :=
  let pvm := setExpectedState op pvm
  match op with
  | .cancel => (operateCancelVM outcome, pvm)
  | .liveMigrate | .plugInUsb | .plugOutUsb | .outInUsb | .plugInPdisk | .plugOutPdisk
  | .recoverImage | .modifyImageBackup | .createImageBackup | .deleteImageBackup
  | .restoreImageBackup | .coldMigrate | .freeze | .unfreeze => (outcome.other, pvm)
  | _ => (doCommonOp outcome, pvm)

/-- `CheckVmState`: the operation that it makes for itself. -/
def checkVmState (hasWorkflow : Bool) (vm : VirtualMachine) : Option VmOperation :=
  if hasWorkflow then none
  else if vm.expectedState = .running ∧ vm.state = .shutoff then some .start
  else none

def Accepted (ret : Status) : Prop := ret = .success ∨ ret = .errorActionRunning

instance (ret : Status) : Decidable (Accepted ret) := inferInstanceAs (Decidable (_ ∨ _))

/-- The state that an accepted operation is to bring the machine to. -/
def target : VmOperation → Option VmInstanceState
  | .create | .start | .resume => some .running
  | .stop | .destroy | .cancel => some .shutoff
  | .pause => some .paused
  | _ => none

/-- The expected state changes with an accepted operation and with no other, and the monitor goes
by it. -/
structure ExpectedRight (op : VmOperation) (vm : VirtualMachine) : Prop where
  accepted : Accepted (doOperation outcome op (some vm)).1 →
    (doOperation outcome op (some vm)).2 =
      some { vm with expectedState := (target op).getD vm.expectedState }
  refused : ¬ Accepted (doOperation outcome op (some vm)).1 →
    (doOperation outcome op (some vm)).2 = some vm
  monitor : ¬ Accepted (doOperation outcome op (some vm)).1 → ∀ hasWorkflow,
    (doOperation outcome op (some vm)).2.map (checkVmState hasWorkflow) =
      some (checkVmState hasWorkflow vm)

/-- What an operation with an expected state is accepted for. -/
def Admits (op : VmOperation) : Prop :=
  if op = .cancel then
    if outcome.deploying then Accepted outcome.rollback
    else outcome.canceling.isSome ∨ outcome.vmExists = false ∨ Accepted outcome.created
  else Accepted outcome.created

/-- The expected state is the target already, or the operation is admitted if it is one of those
that write, and turned down if it is a pause. -/
def Fits (op : VmOperation) (vm : VirtualMachine) : Prop :=
  match target op with
  | none => True
  | some state => vm.expectedState = state ∨
      if op = .pause then ¬ Admits outcome op else Admits outcome op

end Definitions

section Operations

variable {outcome : OpOutcome} {op : VmOperation} {vm : VirtualMachine}

theorem accepted_running : Accepted .errorActionRunning := Or.inr rfl

theorem accepted_of_success (ret : Status) :
    Accepted (if ret = .success then .errorActionRunning else ret) ↔ Accepted ret := by
  split
  · rename_i success
    exact iff_of_true accepted_running (Or.inl success)
  · exact Iff.rfl

theorem accepted_operateCancelVM :
    Accepted (operateCancelVM outcome) ↔ Admits outcome .cancel := by
  rw [operateCancelVM, Admits, if_pos rfl]
  split
  · exact accepted_of_success outcome.rollback
  cases outcome.canceling with
  | some progress =>
      refine iff_of_true ?_ (Or.inl rfl)
      dsimp only
      split
      · exact Or.inl rfl
      · exact accepted_running
  | none =>
      dsimp only
      split
      · rename_i present
        rw [accepted_of_success, present]
        simp
      · rename_i absent
        exact iff_of_true (Or.inl rfl) (Or.inr (Or.inl (Bool.eq_false_iff.mpr absent)))

theorem accepted_doOperation {state : VmInstanceState} (expects : target op = some state) :
    Accepted (doOperation outcome op (some vm)).1 ↔ Admits outcome op := by
  cases op <;> first
    | exact accepted_operateCancelVM
    | exact accepted_of_success outcome.created
    | cases expects

theorem doOperation_snd :
    (doOperation outcome op (some vm)).2 = setExpectedState op (some vm) := by
  cases op <;> rfl

theorem setExpectedState_none (free : target op = none) :
    setExpectedState op (some vm) = some vm := by
  cases op <;> first | rfl | cases free

theorem setExpectedState_pause : setExpectedState .pause (some vm) = some vm := rfl

theorem setExpectedState_some {state : VmInstanceState} (expects : target op = some state)
    (writes : op ≠ .pause) :
    setExpectedState op (some vm) = some { vm with expectedState := state } := by
  cases op <;> first
    | exact absurd rfl writes
    | (cases expects; rfl)
    | cases expects

/-- What the monitor does is settled by the object. -/
theorem right_of {state : Option VmInstanceState}
    (after : (doOperation outcome op (some vm)).2 =
      some { vm with expectedState := state.getD vm.expectedState })
    (admitted : Accepted (doOperation outcome op (some vm)).1 →
      state.getD vm.expectedState = (target op).getD vm.expectedState)
    (refused : ¬ Accepted (doOperation outcome op (some vm)).1 →
      state.getD vm.expectedState = vm.expectedState) :
    ExpectedRight outcome op vm := by
  refine ⟨fun accepted => ?_, fun other => ?_, fun other hasWorkflow => ?_⟩
  · rw [after, admitted accepted]
  · rw [after, refused other]
  · rw [after, refused other, Option.map_some]

/-- The expected state is right after an operation exactly when it was right already, or the
operation was admitted. -/
theorem expectedState_right_iff (outcome : OpOutcome) (op : VmOperation) (vm : VirtualMachine) :
    ExpectedRight outcome op vm ↔ Fits outcome op vm := by
  unfold Fits
  cases expects : target op with
  | none =>
      have after : (doOperation outcome op (some vm)).2 = some vm := by
        rw [doOperation_snd, setExpectedState_none expects]
      refine iff_of_true (@right_of outcome op vm none after (fun _ => ?_) fun _ => rfl) trivial
      rw [expects]
  | some state =>
      have admits := @accepted_doOperation outcome op vm state expects
      dsimp only
      by_cases pause : op = .pause
      · rw [if_pos pause]
        have after : (doOperation outcome op (some vm)).2 = some vm := by
          rw [doOperation_snd, pause, setExpectedState_pause]
        constructor
        · intro right
          by_cases admitted : Admits outcome op
          · have changed := right.accepted (admits.mpr admitted)
            rw [after, expects] at changed
            have same := congrArg VirtualMachine.expectedState (Option.some.inj changed)
            exact Or.inl same
          · exact Or.inr admitted
        · intro fits
          refine @right_of outcome op vm none after (fun accepted => ?_) fun _ => rfl
          rw [expects]
          exact fits.resolve_right fun refused => refused (admits.mp accepted)
      · rw [if_neg pause]
        have after : (doOperation outcome op (some vm)).2 =
            some { vm with expectedState := state } := by
          rw [doOperation_snd, setExpectedState_some expects pause]
        constructor
        · intro right
          by_cases admitted : Admits outcome op
          · exact Or.inr admitted
          · have kept := right.refused (mt admits.mp admitted)
            rw [after] at kept
            have same := congrArg VirtualMachine.expectedState (Option.some.inj kept)
            exact Or.inl same.symm
        · intro fits
          refine @right_of outcome op vm (some state) after (fun _ => ?_) fun refused => ?_
          · rw [expects]
          · exact (fits.resolve_right fun admitted => refused (admits.mpr admitted)).symm

end Operations

section Example

/-- Every statement succeeds on a machine that is in the pool. -/
def allSucceeds : OpOutcome := ⟨true, false, none, .success, .success, .success⟩

/-- No workflow can be made. -/
def notCreated : OpOutcome := { allSucceeds with created := .error }

/-- A start that is refused makes the monitor start the machine: it was stopped, it is to run now,
and nothing runs for it. -/
theorem refused_start_is_started :
    (doOperation notCreated .start (some ⟨.shutoff, .shutoff⟩)).1 = .error ∧
      (doOperation notCreated .start (some ⟨.shutoff, .shutoff⟩)).2.map (checkVmState false) =
        some (some .start) ∧
      ¬ ExpectedRight notCreated .start ⟨.shutoff, .shutoff⟩ := by
  refine ⟨by decide, by decide, fun right => ?_⟩
  exact absurd (right.refused (by decide)) (by decide)

/-- A pause is accepted and the machine is still expected to run. -/
example : (doOperation allSucceeds .pause (some ⟨.running, .running⟩)) =
    (.errorActionRunning, some ⟨.running, .running⟩) := by decide

end Example

end Tecs.Vm.ExpectedState
