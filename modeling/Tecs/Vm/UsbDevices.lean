import Tecs.Library.Run
import Tecs.Sky.Errcode

set_option autoImplicit false

/-! The USB devices of the virtual machines: a table of them, and the list in each machine's
configuration. -/

namespace Tecs

namespace Vm.Usb

open Transition

section Definitions

inductive UsbOperation
  | plugInUsb | plugOutUsb | outInUsb
deriving Repr, DecidableEq

structure VmUsbInfo where
  vendorId : ℤ
  productId : ℤ
  name : String
deriving Repr, DecidableEq

def VmUsbInfo.device (info : VmUsbInfo) : ℤ × ℤ := (info.vendorId, info.productId)

structure VmUsbOp where
  vid : ℤ
  operation : UsbOperation
  usbInfo : VmUsbInfo
deriving Repr, DecidableEq

/-- A row of `vm_usb`; the action of the request that inserted it is history. -/
structure VmUsbRow where
  vid : ℤ
  info : VmUsbInfo
  pluggedBy : ℕ
deriving Repr, DecidableEq

/-- The row belongs to this machine and is about this device; the two make the primary key. -/
def VmUsbRow.isFor (vid : ℤ) (device : ℤ × ℤ) (row : VmUsbRow) : Bool :=
  row.vid = vid && row.info.device = device

inductive FeedBackFunc
  | endVmOp | deleteWorkflow | pluginUsbFailed | plugoutUsbSuccessed
deriving Repr, DecidableEq

/-- The one action of a stored workflow. -/
structure VmAction where
  id : ℕ
  messageReq : VmUsbOp
  successFeedback : FeedBackFunc
  failureFeedback : FeedBackFunc
deriving Repr, DecidableEq

/-- The devices in the cached configuration, and in the configuration that the database holds. -/
structure VirtualMachine where
  usb : List VmUsbInfo
  stored : List VmUsbInfo
deriving Repr, DecidableEq

structure UsbState where
  vms : ℤ → Option VirtualMachine
  vmUsb : List VmUsbRow
  actions : List VmAction
  nextId : ℕ

/-- What a request finds: the answer of the checks before the operation, whether the devices can be
selected and a row inserted, the workflow of the machine that is deleted, what `CreateWorkflow`
returns, and whether the transaction is carried out. -/
structure OpContext where
  refused : Option (Status × String)
  selects : Bool
  inserts : Bool
  running : Option ℕ
  created : Status
  committed : Bool

/-- What an acknowledgement finds: the lock of the workflow, the action and the machine, whether
rows can be deleted, those that the server takes where the name has a quote of its own, whether the
transaction is carried out, and whether the action ends. -/
structure AckContext where
  locked : Bool
  read : Bool
  deletes : Bool
  quoted : Option (VmUsbRow → Bool)
  committed : Bool
  ended : Bool

variable (s : UsbState)

def UsbState.modify (vid : ℤ) (change : VirtualMachine → VirtualMachine) : UsbState :=
  { s with vms := Function.update s.vms vid ((s.vms vid).map change) }

/-- A machine that was locked and has another list now. -/
def UsbState.setUsb (vid : ℤ) (change : List VmUsbInfo → List VmUsbInfo) : UsbState :=
  s.modify vid fun pvm => { pvm with usb := change pvm.usb }

/-- `_vm_pool->Update(pvm)`. -/
def UsbState.update (vid : ℤ) : UsbState := s.modify vid fun pvm => { pvm with stored := pvm.usb }

/-- `AddCommonWorkflow`, where its statements are executed. -/
def UsbState.addCommonWorkflow (req : VmUsbOp) (success failure : FeedBackFunc)
    (running : Option ℕ) : UsbState :=
  { s with
    actions := s.actions.filter (some ·.id ≠ running) ++ [⟨s.nextId, req, success, failure⟩]
    nextId := s.nextId + 1 }

/-- The value of the last row that is read. -/
def UsbState.getVidbyUsb (device : ℤ × ℤ) : Option ℤ :=
  (s.vmUsb.filter (·.info.device = device)).getLast?.map (·.vid)

def UsbState.isUsbExist (vid : ℤ) (device : ℤ × ℤ) : Bool := s.vmUsb.any (·.isFor vid device)

/-- The `INSERT` takes its row: the name fits, and the key is new. -/
def UsbState.insertsRow (req : VmUsbOp) (context : OpContext) : Bool :=
  context.inserts && req.usbInfo.name.length ≤ 128 && !s.isUsbExist req.vid req.usbInfo.device

/-- The cached list is changed and the row inserted at once; only the `UPDATE` of the configuration
waits for the transaction. -/
def UsbState.insertVmUsbInfo (req : VmUsbOp) (context : OpContext) : UsbState :=
  let pushed := s.setUsb req.vid (· ++ [req.usbInfo])
  if s.insertsRow req context then
    { pushed with vmUsb := s.vmUsb ++ [⟨req.vid, req.usbInfo, s.nextId⟩] }
  else pushed

/-- From `InsertVmUsbInfo` on: the action has its id also where its workflow is not stored. -/
def UsbState.plugIn (req : VmUsbOp) (context : OpContext) : (Status × String) × UsbState :=
  let inserted := s.insertVmUsbInfo req context
  let failed := { inserted with nextId := s.nextId + 1 }
  if context.created ≠ .success then ((context.created, ""), failed)
  else if !context.committed then ((.error, ""), failed)
  else
    ((.errorActionRunning, ""), (inserted.update req.vid).addCommonWorkflow req .endVmOp
      .pluginUsbFailed context.running)

def operatePluginUSB (req : VmUsbOp) (context : OpContext) : (Status × String) × UsbState :=
  match if context.selects then s.getVidbyUsb req.usbInfo.device else none with
  | none => s.plugIn req context
  | some vid =>
      if vid = req.vid then ((.success, "usb already be used!"), s)
      else ((.errorPermissionDenied, "usb already be used in other vm " ++ toString vid), s)

/-- There is no transaction around the two workflow calls. -/
def operatePlugoutUSB (req : VmUsbOp) (context : OpContext) : (Status × String) × UsbState :=
  if !(context.selects && s.isUsbExist req.vid req.usbInfo.device) then
    ((.errorDeviceNotExist, "usb info does not exist"), s)
  else
    let successFunc :=
      if req.operation = .plugOutUsb then FeedBackFunc.plugoutUsbSuccessed else .endVmOp
    let ret := if context.created = .success then .errorActionRunning else context.created
    if context.committed then
      ((ret, ""), s.addCommonWorkflow req successFunc .deleteWorkflow context.running)
    else
      ((ret, ""), { s with actions := s.actions.filter (some ·.id ≠ context.running) })

def doOperation (req : VmUsbOp) (context : OpContext) : (Status × String) × UsbState :=
  match req.operation with
  | .plugInUsb => operatePluginUSB s req context
  | .plugOutUsb | .outInUsb => operatePlugoutUSB s req context

def operateVM (req : VmUsbOp) (context : OpContext) : (Status × String) × UsbState :=
  match s.vms req.vid, context.refused with
  | none, _ => ((.errVmNotExist, "vm_manager find no vm(id=" ++ toString req.vid ++
      ") in this cluster pool!"), s)
  | some _, some answer => (answer, s)
  | some _, none => doOperation s req context

/-- The name stands in the statement as it is. -/
def hasQuote (name : String) : Bool := name.toList.contains (Char.ofNat 39)

/-- The rows that the `DELETE` takes, if the server accepts it. -/
def deletes (req : VmUsbOp) (quoted : Option (VmUsbRow → Bool)) : Option (VmUsbRow → Bool) :=
  if hasQuote req.usbInfo.name then quoted
  else some fun row => row.isFor req.vid req.usbInfo.device && row.info.name = req.usbInfo.name

/-- The rows that are taken, if the statement is executed. -/
def AckContext.deleted (context : AckContext) (req : VmUsbOp) : Option (VmUsbRow → Bool) :=
  if context.deletes then Usb.deletes req context.quoted else none

/-- The `DELETE` is executed at once as well. -/
def UsbState.deleteVmUsbInfo (req : VmUsbOp) (context : AckContext) : UsbState :=
  let erased := s.setUsb req.vid (·.eraseP (·.device = req.usbInfo.device))
  let updated := if context.committed then erased.update req.vid else erased
  match context.deleted req with
  | none => updated
  | some taken => { updated with vmUsb := s.vmUsb.filter (!taken ·) }

/-- `FinishAction` or `DeleteWorkflow` at the end of an operation. -/
def UsbState.endVmOp (action : VmAction) (ended : Bool) : UsbState :=
  if ended then { s with actions := s.actions.filter (·.id ≠ action.id) } else s

/-- A timeout has no feedback. -/
def feedback (action : VmAction) (state : Status) : Option FeedBackFunc :=
  if state = .success then some action.successFeedback
  else if state = .errorActionTimeout then none
  else some action.failureFeedback

def FeedBackFunc.removesUsb : FeedBackFunc → Bool
  | .pluginUsbFailed | .plugoutUsbSuccessed => true
  | .endVmOp | .deleteWorkflow => false

def responseFeedback (action : VmAction) (state : Status) (context : AckContext) : UsbState :=
  match feedback action state with
  | none => s
  | some func =>
      if func.removesUsb then
        (s.deleteVmUsbInfo action.messageReq context).endVmOp action context.ended
      else s.endVmOp action context.ended

/-- The action of an acknowledgement that the handler comes to answer. -/
def UsbState.answered (id : ℕ) (context : AckContext) : Option VmAction :=
  (s.actions.find? (·.id = id)).filter fun action =>
    context.locked && context.read && (s.vms action.messageReq.vid).isSome

/-- A request of an operator, or an acknowledgement from the host. -/
inductive UsbLabel
  | operate (req : VmUsbOp) (context : OpContext)
  | ack (id : ℕ) (state : Status) (context : AckContext)

def UsbState.next : UsbLabel → UsbState
  | .operate req context => (operateVM s req context).2
  | .ack id state context =>
      match s.answered id context with
      | none => s
      | some action => responseFeedback s action state context

def UsbStep (s : UsbState) (label : UsbLabel) (next : UsbState) : Prop := next = s.next label

end Definitions

section Specification

/-- The table records the device for this machine. -/
def Records (rows : List VmUsbRow) (vid : ℤ) (device : ℤ × ℤ) : Prop :=
  ∃ row ∈ rows, row.isFor vid device = true

/-- The configuration lists the devices that are recorded, each one once, and is saved. -/
structure VirtualMachine.Lists (pvm : VirtualMachine) (recorded : ℤ × ℤ → Prop) : Prop where
  distinct : (pvm.usb.map VmUsbInfo.device).Nodup
  exactly : ∀ device, device ∈ pvm.usb.map VmUsbInfo.device ↔ recorded device
  saved : pvm.stored = pvm.usb

structure UsbState.Agrees (s : UsbState) : Prop where
  single : ∀ row ∈ s.vmUsb, ∀ other ∈ s.vmUsb, row.info.device = other.info.device →
    row.vid = other.vid
  listed : ∀ vid pvm, s.vms vid = some pvm → pvm.Lists (Records s.vmUsb vid)

/-- What the keys of the tables guarantee, and that ids are not given out twice. -/
structure UsbState.Keyed (s : UsbState) : Prop where
  keys : (s.vmUsb.map fun row => (row.vid, row.info.device)).Nodup
  owned : ∀ row ∈ s.vmUsb, (s.vms row.vid).isSome
  plugged : ∀ row ∈ s.vmUsb, row.pluggedBy < s.nextId
  given : ∀ action ∈ s.actions, action.id < s.nextId
  linked : ∀ action ∈ s.actions, ∀ row ∈ s.vmUsb, row.pluggedBy = action.id →
    row.isFor action.messageReq.vid action.messageReq.usbInfo.device = true

/-- The devices are as they were in another state. -/
def UsbState.SameDevices (s next : UsbState) : Prop := next.vms = s.vms ∧ next.vmUsb = s.vmUsb

/-- The state without what one plug-in has recorded. -/
def UsbState.without (s : UsbState) (id : ℕ) : UsbState :=
  let plugged (vid : ℤ) (info : VmUsbInfo) : Bool :=
    s.vmUsb.any fun row => row.pluggedBy = id && row.isFor vid info.device
  { s with
    vms := fun vid => (s.vms vid).map fun pvm =>
      ⟨pvm.usb.filter (!plugged vid ·), pvm.stored.filter (!plugged vid ·)⟩
    vmUsb := s.vmUsb.filter (·.pluggedBy ≠ id) }

/-- A plug-in that makes no workflow, or fails on the host, leaves no trace. -/
def UsbLabel.LeavesBoth (s : UsbState) : UsbLabel → UsbState → Prop
  | .operate req _, next =>
      req.operation = .plugInUsb → (∀ action ∈ next.actions, action.id ≠ s.nextId) →
        s.SameDevices next
  | .ack id state context, next => ∀ action, s.answered id context = some action →
      feedback action state = some .pluginUsbFailed → (s.without id).SameDevices next

/-- The steps after which table and configurations agree, and a plug-in that is refused or fails
has left both as they were. -/
def LawfulStep (s : UsbState) (label : UsbLabel) (next : UsbState) : Prop :=
  UsbStep s label next ∧ next.Agrees ∧ label.LeavesBoth s next

/-- The request comes to `OperatePluginUSB`. -/
structure UsbState.PlugsIn (s : UsbState) (req : VmUsbOp) (context : OpContext) : Prop where
  operation : req.operation = .plugInUsb
  found : (s.vms req.vid).isSome
  allowed : context.refused = none

/-- A device that is recorded is found; any other one gets its row and its workflow. -/
def UsbState.PlugInCarriedOut (s : UsbState) (req : VmUsbOp) (context : OpContext) : Prop :=
  if ∃ row ∈ s.vmUsb, row.info.device = req.usbInfo.device then context.selects = true
  else s.insertsRow req context = true ∧ context.created = .success ∧ context.committed = true

/-- The rows that are deleted are those of the machine and the device, and the configuration
follows. -/
def UsbState.RemovalCarriedOut (s : UsbState) (req : VmUsbOp) (context : AckContext) : Prop :=
  (∀ taken, context.deleted req = some taken →
    ∀ row ∈ s.vmUsb, taken row = row.isFor req.vid req.usbInfo.device) ∧
  (context.deleted req = none ∨ context.committed = false →
    ¬Records s.vmUsb req.vid req.usbInfo.device)

/-- What is recorded for the machine and the device comes from this plug-in. -/
def UsbState.OwnRows (s : UsbState) (action : VmAction) : Prop :=
  ∀ row ∈ s.vmUsb, row.isFor action.messageReq.vid action.messageReq.usbInfo.device = true →
    row.pluggedBy = action.id

def UsbState.CarriedOut (s : UsbState) : UsbLabel → Prop
  | .operate req context => s.PlugsIn req context → s.PlugInCarriedOut req context
  | .ack id state context => ∀ action func, s.answered id context = some action →
      feedback action state = some func → func.removesUsb = true →
      s.RemovalCarriedOut action.messageReq context ∧
        (func = .pluginUsbFailed → s.OwnRows action)

end Specification

section Operations

variable {s : UsbState} {req : VmUsbOp}

theorem isFor_iff {vid : ℤ} {device : ℤ × ℤ} {row : VmUsbRow} :
    row.isFor vid device = true ↔ row.vid = vid ∧ row.info.device = device := by
  simp [VmUsbRow.isFor]

theorem isUsbExist_iff {vid : ℤ} {device : ℤ × ℤ} :
    s.isUsbExist vid device = true ↔ Records s.vmUsb vid device := by
  simp [UsbState.isUsbExist, Records]

theorem modify_vms (vid : ℤ) (change : VirtualMachine → VirtualMachine) (v : ℤ) :
    (s.modify vid change).vms v = if v = vid then (s.vms v).map change else s.vms v := by
  by_cases here : v = vid
  · rw [here]
    simp [UsbState.modify]
  · simp [UsbState.modify, here]

theorem getVidbyUsb_eq_none {device : ℤ × ℤ} :
    s.getVidbyUsb device = none ↔ ¬∃ row ∈ s.vmUsb, row.info.device = device := by
  simp [UsbState.getVidbyUsb]

theorem insertsRow_absent {context : OpContext} (row : s.insertsRow req context = true) :
    ¬Records s.vmUsb req.vid req.usbInfo.device := by
  rw [UsbState.insertsRow, Bool.and_eq_true] at row
  rw [← isUsbExist_iff]
  simpa using row.2

/-- A device that is recorded is not plugged in, and leaves everything as it is. -/
theorem operatePluginUSB_found {context : OpContext} (selects : context.selects = true)
    (recorded : ∃ row ∈ s.vmUsb, row.info.device = req.usbInfo.device) :
    (operatePluginUSB s req context).2 = s := by
  rw [operatePluginUSB, if_pos selects]
  cases read : s.getVidbyUsb req.usbInfo.device with
  | none => exact absurd recorded (getVidbyUsb_eq_none.mp read)
  | some vid =>
      dsimp only
      split
      · rfl
      · rfl

theorem operatePluginUSB_new {context : OpContext}
    (missed : ¬(context.selects = true ∧
      ∃ row ∈ s.vmUsb, row.info.device = req.usbInfo.device)) :
    operatePluginUSB s req context = s.plugIn req context := by
  have read : (if context.selects then s.getVidbyUsb req.usbInfo.device else none) = none := by
    split
    next selects => exact getVidbyUsb_eq_none.mpr fun recorded => missed ⟨selects, recorded⟩
    next => rfl
  rw [operatePluginUSB, read]

/-- The transaction of a plug-in is carried out. -/
def OpContext.Stored (context : OpContext) : Prop :=
  context.created = .success ∧ context.committed = true

instance (context : OpContext) : Decidable context.Stored := instDecidableAnd

theorem insertVmUsbInfo_vms (context : OpContext) (v : ℤ) :
    (s.insertVmUsbInfo req context).vms v = (s.setUsb req.vid (· ++ [req.usbInfo])).vms v := by
  rw [UsbState.insertVmUsbInfo]
  split
  · rfl
  · rfl

theorem insertVmUsbInfo_rest (context : OpContext) :
    (s.insertVmUsbInfo req context).actions = s.actions ∧
      (s.insertVmUsbInfo req context).nextId = s.nextId ∧
      (s.insertVmUsbInfo req context).vmUsb =
        if s.insertsRow req context then s.vmUsb ++ [⟨req.vid, req.usbInfo, s.nextId⟩]
        else s.vmUsb := by
  rw [UsbState.insertVmUsbInfo]
  split
  · exact ⟨rfl, rfl, rfl⟩
  · exact ⟨rfl, rfl, rfl⟩

theorem plugIn_failed {context : OpContext} (failed : ¬context.Stored) :
    (s.plugIn req context).2 =
      { s.insertVmUsbInfo req context with nextId := s.nextId + 1 } := by
  rw [UsbState.plugIn]
  dsimp only
  split
  · rfl
  next created =>
  split
  · rfl
  next committed =>
  exact absurd ⟨not_not.mp created, by simpa using committed⟩ failed

theorem plugIn_stored {context : OpContext} (stored : context.Stored) :
    (s.plugIn req context).2 = ((s.insertVmUsbInfo req context).update req.vid).addCommonWorkflow
      req .endVmOp .pluginUsbFailed context.running := by
  rw [UsbState.plugIn]
  simp [stored.1, stored.2]

theorem plugIn_vms (context : OpContext) (v : ℤ) :
    (s.plugIn req context).2.vms v =
      if v = req.vid then
        (s.vms v).map fun pvm => ⟨pvm.usb ++ [req.usbInfo],
          if context.Stored then pvm.usb ++ [req.usbInfo] else pvm.stored⟩
      else s.vms v := by
  by_cases stored : context.Stored
  · rw [plugIn_stored stored]
    show ((s.insertVmUsbInfo req context).update req.vid).vms v = _
    rw [UsbState.update, modify_vms, insertVmUsbInfo_vms, UsbState.setUsb, modify_vms]
    simp only [if_pos stored]
    split
    · rw [Option.map_map]
      rfl
    · rfl
  · rw [plugIn_failed stored]
    show (s.insertVmUsbInfo req context).vms v = _
    simp only [if_neg stored]
    rw [insertVmUsbInfo_vms, UsbState.setUsb, modify_vms]

theorem plugIn_vmUsb (s : UsbState) (req : VmUsbOp) (context : OpContext) :
    (s.plugIn req context).2.vmUsb =
      if s.insertsRow req context then s.vmUsb ++ [⟨req.vid, req.usbInfo, s.nextId⟩]
      else s.vmUsb := by
  by_cases stored : context.Stored
  · rw [plugIn_stored stored]
    exact (insertVmUsbInfo_rest context).2.2
  · rw [plugIn_failed stored]
    exact (insertVmUsbInfo_rest context).2.2

theorem plugIn_nextId (s : UsbState) (req : VmUsbOp) (context : OpContext) :
    (s.plugIn req context).2.nextId = s.nextId + 1 := by
  by_cases stored : context.Stored
  · rw [plugIn_stored stored]
    exact congrArg (· + 1) (insertVmUsbInfo_rest context).2.1
  · rw [plugIn_failed stored]

/-- The action that a plug-in stores is its own. -/
theorem plugIn_actions {context : OpContext} {action : VmAction}
    (inside : action ∈ (s.plugIn req context).2.actions) :
    action ∈ s.actions ∨ action.id = s.nextId ∧ action.messageReq = req := by
  have ⟨actions, nextId, _⟩ := @insertVmUsbInfo_rest s req context
  by_cases stored : context.Stored
  · rw [plugIn_stored stored] at inside
    rcases List.mem_append.mp inside with old | new
    · exact .inl (actions ▸ (List.mem_filter.mp old).1)
    · rw [List.mem_singleton.mp new]
      exact .inr ⟨nextId, rfl⟩
  · rw [plugIn_failed stored] at inside
    exact .inl (actions ▸ inside)

theorem plugIn_makes {context : OpContext} (stored : context.Stored) :
    ∃ action ∈ (s.plugIn req context).2.actions, action.id = s.nextId := by
  rw [plugIn_stored stored]
  exact ⟨_, List.mem_append_right _ (List.mem_singleton_self _), (insertVmUsbInfo_rest context).2.1⟩

/-- A request that is no plug-in, or does not come to be one, leaves the devices alone. -/
theorem next_operate_other {context : OpContext} (other : ¬s.PlugsIn req context) :
    s.SameDevices (s.next (.operate req context)) := by
  rw [UsbState.next, operateVM]
  split
  · exact ⟨rfl, rfl⟩
  · exact ⟨rfl, rfl⟩
  next pvm found allowed =>
  rw [doOperation]
  split
  next operation => exact absurd ⟨operation, by rw [found]; rfl, allowed⟩ other
  all_goals
    rw [operatePlugoutUSB]
    split
    · exact ⟨rfl, rfl⟩
    · dsimp only
      split
      · exact ⟨rfl, rfl⟩
      · exact ⟨rfl, rfl⟩

theorem next_operate_plugIn {context : OpContext} (plugs : s.PlugsIn req context) :
    s.next (.operate req context) = (operatePluginUSB s req context).2 := by
  obtain ⟨pvm, found⟩ := Option.isSome_iff_exists.mp plugs.found
  rw [UsbState.next, operateVM, found, plugs.allowed]
  dsimp only
  rw [doOperation, plugs.operation]

theorem endVmOp_devices (s : UsbState) (action : VmAction) (ended : Bool) :
    s.SameDevices (s.endVmOp action ended) := by
  rw [UsbState.endVmOp]
  split
  · exact ⟨rfl, rfl⟩
  · exact ⟨rfl, rfl⟩

end Operations

section Agreement

variable {s : UsbState} {req : VmUsbOp}

theorem UsbState.SameDevices.agrees {next : UsbState} (same : s.SameDevices next) :
    next.Agrees ↔ s.Agrees := by
  have transfer : ∀ {a b : UsbState}, a.SameDevices b → a.Agrees → b.Agrees := by
    intro a b same agrees
    constructor
    · rw [same.2]
      exact agrees.single
    · rw [same.1, same.2]
      exact agrees.listed
  exact ⟨transfer ⟨same.1.symm, same.2.symm⟩, transfer same⟩

theorem eraseP_devices (usb : List VmUsbInfo) (device : ℤ × ℤ) :
    (usb.eraseP (·.device = device)).map VmUsbInfo.device =
      (usb.map VmUsbInfo.device).erase device := by
  rw [List.erase_eq_eraseP, List.eraseP_map]
  congr 1
  congr 1
  funext info
  rw [Function.comp_apply, beq_eq_decide]
  exact decide_eq_decide.mpr eq_comm

/-- The device occurs at most once, so that removing its first entry removes all of them. -/
theorem eraseP_eq_filter {usb : List VmUsbInfo} (device : ℤ × ℤ)
    (distinct : (usb.map VmUsbInfo.device).Nodup) :
    usb.eraseP (·.device = device) = usb.filter (·.device ≠ device) := by
  induction usb with
  | nil => rfl
  | cons info rest ih =>
      rw [List.map_cons, List.nodup_cons] at distinct
      by_cases here : info.device = device
      · have absent : ∀ other ∈ rest, other.device ≠ device := fun other inside same =>
          distinct.1 (here.trans same.symm ▸ List.mem_map_of_mem inside)
        rw [List.eraseP_cons_of_pos (by simpa using here), List.filter_cons_of_neg (by simp [here])]
        exact (List.filter_eq_self.mpr fun other inside => by simpa using absent other inside).symm
      · rw [List.eraseP_cons_of_neg (by simpa using here), List.filter_cons_of_pos (by simp [here]),
          ih distinct.2]

/-- The list of a machine whose plug-in was not carried out names a device that is not recorded, or
names it twice, or is not saved. -/
theorem plugIn_disagrees (agrees : s.Agrees) (found : (s.vms req.vid).isSome) {context : OpContext}
    (failed : ¬(s.insertsRow req context = true ∧ context.Stored)) :
    ¬(s.plugIn req context).2.Agrees := by
  intro after
  obtain ⟨pvm, read⟩ := Option.isSome_iff_exists.mp found
  have here := @plugIn_vms s req context req.vid
  rw [if_pos rfl, read, Option.map_some] at here
  have pushed := after.listed req.vid _ here
  have listed := agrees.listed req.vid pvm read
  by_cases stored : context.Stored
  · have rows := plugIn_vmUsb s req context
    rw [if_neg fun row => failed ⟨row, stored⟩] at rows
    have recorded : Records s.vmUsb req.vid req.usbInfo.device :=
      rows ▸ (pushed.exactly req.usbInfo.device).mp (by simp)
    have inside := (listed.exactly req.usbInfo.device).mpr recorded
    have distinct := pushed.distinct
    rw [List.map_append, List.nodup_append] at distinct
    exact distinct.2.2 _ inside _ (by simp) rfl
  · have saved := pushed.saved
    rw [if_neg stored, listed.saved] at saved
    exact absurd (congrArg List.length saved) (by simp)

/-- A plug-in that was carried out: the device must not have been recorded for another machine. -/
theorem plugIn_agrees_iff (agrees : s.Agrees) {context : OpContext}
    (row : s.insertsRow req context = true) (stored : context.Stored) :
    (s.plugIn req context).2.Agrees ↔ ¬∃ row ∈ s.vmUsb, row.info.device = req.usbInfo.device := by
  have absent : ¬Records s.vmUsb req.vid req.usbInfo.device := insertsRow_absent row
  have rows := plugIn_vmUsb s req context
  rw [if_pos row] at rows
  constructor
  · rintro after ⟨row, inside, same⟩
    refine absent ⟨row, inside, isFor_iff.mpr ⟨?_, same⟩⟩
    have single := after.single
    rw [rows] at single
    exact single row (List.mem_append_left _ inside) _ (List.mem_concat_self ..) same
  · intro new
    constructor
    · rw [rows]
      intro row inside other inside' same
      rw [List.mem_append, List.mem_singleton] at inside inside'
      rcases inside with inside | rfl
      · rcases inside' with inside' | rfl
        · exact agrees.single row inside other inside' same
        · exact absurd ⟨row, inside, same⟩ new
      · rcases inside' with inside' | rfl
        · exact absurd ⟨other, inside', same.symm⟩ new
        · rfl
    · intro v pvm found
      simp only [plugIn_vms, if_pos stored] at found
      rw [rows]
      have records : ∀ device, Records (s.vmUsb ++ [⟨req.vid, req.usbInfo, s.nextId⟩]) v device ↔
          Records s.vmUsb v device ∨ req.vid = v ∧ req.usbInfo.device = device := by
        intro device
        simp [Records, or_and_right, exists_or, isFor_iff]
      by_cases here : v = req.vid
      · rw [if_pos here] at found
        obtain ⟨old, read, rfl⟩ := Option.map_eq_some_iff.mp found
        have listed := agrees.listed v old read
        subst here
        refine ⟨?_, fun device => ?_, rfl⟩
        · rw [List.map_append, List.map_singleton, List.nodup_append]
          refine ⟨listed.distinct, List.nodup_singleton _, ?_⟩
          rintro device inside _ single rfl
          rw [List.mem_singleton.mp single] at inside
          exact absent ((listed.exactly _).mp inside)
        · rw [records, ← listed.exactly]
          simp [eq_comm]
      · rw [if_neg here] at found
        have listed := agrees.listed v pvm found
        refine ⟨listed.distinct, fun device => ?_, listed.saved⟩
        rw [records, ← listed.exactly]
        simp [Ne.symm here]

theorem deleteVmUsbInfo_vms (s : UsbState) (req : VmUsbOp) (context : AckContext) (v : ℤ) :
    (s.deleteVmUsbInfo req context).vms v =
      if v = req.vid then
        (s.vms v).map fun pvm =>
          ⟨pvm.usb.eraseP (·.device = req.usbInfo.device),
            if context.committed then pvm.usb.eraseP (·.device = req.usbInfo.device)
            else pvm.stored⟩
      else s.vms v := by
  have updated : (s.deleteVmUsbInfo req context).vms =
      (if context.committed then
        (s.setUsb req.vid (·.eraseP (·.device = req.usbInfo.device))).update req.vid
      else s.setUsb req.vid (·.eraseP (·.device = req.usbInfo.device))).vms := by
    rw [UsbState.deleteVmUsbInfo]
    cases context.deleted req with
    | none => rfl
    | some taken => rfl
  rw [updated]
  cases context.committed with
  | false =>
      show (s.setUsb req.vid _).vms v = _
      rw [UsbState.setUsb, modify_vms]
      rfl
  | true =>
      show ((s.setUsb req.vid _).update req.vid).vms v = _
      rw [UsbState.update, modify_vms, UsbState.setUsb, modify_vms]
      split
      · rw [Option.map_map]
        rfl
      · rfl

theorem deleteVmUsbInfo_rest (s : UsbState) (req : VmUsbOp) (context : AckContext) :
    (s.deleteVmUsbInfo req context).actions = s.actions ∧
      (s.deleteVmUsbInfo req context).nextId = s.nextId ∧
      (s.deleteVmUsbInfo req context).vmUsb =
        match context.deleted req with
        | none => s.vmUsb
        | some taken => s.vmUsb.filter (!taken ·) := by
  rw [UsbState.deleteVmUsbInfo]
  cases context.deleted req with
  | none =>
      dsimp only
      split
      · exact ⟨rfl, rfl, rfl⟩
      · exact ⟨rfl, rfl, rfl⟩
  | some taken =>
      dsimp only
      split
      · exact ⟨rfl, rfl, rfl⟩
      · exact ⟨rfl, rfl, rfl⟩

theorem deleteVmUsbInfo_vmUsb (s : UsbState) (req : VmUsbOp) (context : AckContext) :
    (s.deleteVmUsbInfo req context).vmUsb =
      match context.deleted req with
      | none => s.vmUsb
      | some taken => s.vmUsb.filter (!taken ·) :=
  (deleteVmUsbInfo_rest s req context).2.2

end Agreement

section Removal

variable {s : UsbState} {req : VmUsbOp} {pvm : VirtualMachine}

theorem mem_erased {recorded : ℤ × ℤ → Prop} (listed : pvm.Lists recorded) (device other : ℤ × ℤ) :
    other ∈ (pvm.usb.eraseP (·.device = device)).map VmUsbInfo.device ↔
      other ≠ device ∧ recorded other := by
  rw [eraseP_devices, listed.distinct.mem_erase_iff, listed.exactly]

theorem eraseP_absent {recorded : ℤ × ℤ → Prop} (listed : pvm.Lists recorded) {device : ℤ × ℤ}
    (absent : ¬recorded device) : pvm.usb.eraseP (·.device = device) = pvm.usb := by
  apply List.eraseP_of_forall_not
  intro info inside
  have different : info.device ≠ device := fun same =>
    absent ((listed.exactly device).mp (same ▸ List.mem_map_of_mem inside))
  simpa using different

/-- A list that has lost the device is another one, unless the device was not there. -/
theorem eraseP_ne {usb : List VmUsbInfo} {device : ℤ × ℤ}
    (inside : device ∈ usb.map VmUsbInfo.device) : usb.eraseP (·.device = device) ≠ usb := by
  obtain ⟨info, there, same⟩ := List.mem_map.mp inside
  intro kept
  have shorter := List.length_eraseP_of_mem (p := (·.device = device)) there (by simpa using same)
  rw [kept] at shorter
  have filled := List.length_pos_of_mem there
  omega

/-- The row stays, or the cached list is not saved. -/
theorem unrecorded_of_agrees (agrees : s.Agrees) (found : s.vms req.vid = some pvm)
    {context : AckContext} (kept : context.deleted req = none ∨ context.committed = false)
    (after : (s.deleteVmUsbInfo req context).Agrees) :
    ¬Records s.vmUsb req.vid req.usbInfo.device := by
  have listed := agrees.listed req.vid pvm found
  have here := deleteVmUsbInfo_vms s req context req.vid
  rw [if_pos rfl, found, Option.map_some] at here
  have erased := after.listed req.vid _ here
  intro recorded
  rcases kept with kept | kept
  · have rows := deleteVmUsbInfo_vmUsb s req context
    rw [kept] at rows
    have still := erased.exactly req.usbInfo.device
    rw [rows, mem_erased listed] at still
    exact (still.mpr recorded).1 rfl
  · have saved := erased.saved
    rw [kept, if_neg Bool.false_ne_true, listed.saved] at saved
    exact eraseP_ne ((listed.exactly _).mpr recorded) saved.symm

theorem records_filter {rows : List VmUsbRow} {taken : VmUsbRow → Bool} {v : ℤ}
    {device : ℤ × ℤ} : Records (rows.filter (!taken ·)) v device ↔
      ∃ row ∈ rows, taken row = false ∧ row.isFor v device = true := by
  simp [Records, and_assoc]

/-- A row that is left out of the deletion is still listed, and one that is deleted is not. -/
theorem taken_of_agrees (keyed : s.Keyed) (agrees : s.Agrees) (found : s.vms req.vid = some pvm)
    {context : AckContext} {taken : VmUsbRow → Bool} (deleted : context.deleted req = some taken)
    (after : (s.deleteVmUsbInfo req context).Agrees) (row : VmUsbRow) (inside : row ∈ s.vmUsb) :
    taken row = row.isFor req.vid req.usbInfo.device := by
  have listed := agrees.listed req.vid pvm found
  have rows : (s.deleteVmUsbInfo req context).vmUsb = s.vmUsb.filter (!taken ·) := by
    rw [deleteVmUsbInfo_vmUsb, deleted]
  have here := deleteVmUsbInfo_vms s req context req.vid
  rw [if_pos rfl, found, Option.map_some] at here
  have own : Records s.vmUsb row.vid row.info.device := ⟨row, inside, isFor_iff.mpr ⟨rfl, rfl⟩⟩
  cases mine : row.isFor req.vid req.usbInfo.device with
  | true =>
      by_contra kept
      have still := (after.listed req.vid _ here).exactly req.usbInfo.device
      rw [mem_erased listed, rows, records_filter] at still
      exact (still.mpr ⟨row, inside, by simpa using kept, mine⟩).1 rfl
  | false =>
      have remains : Records (s.deleteVmUsbInfo req context).vmUsb row.vid row.info.device := by
        by_cases same : row.vid = req.vid
        · have still := (after.listed req.vid _ here).exactly row.info.device
          rw [mem_erased listed, ← same] at still
          refine still.mp ⟨fun device => ?_, own⟩
          rw [isFor_iff.mpr ⟨same, device⟩] at mine
          cases mine
        · obtain ⟨other, read⟩ := Option.isSome_iff_exists.mp (keyed.owned row inside)
          have there := deleteVmUsbInfo_vms s req context row.vid
          rw [if_neg same, read] at there
          have before := (agrees.listed row.vid other read).exactly row.info.device
          exact ((after.listed row.vid other there).exactly _).mp (before.mpr own)
      rw [rows, records_filter] at remains
      obtain ⟨twin, inside', kept, key⟩ := remains
      have equal : twin = row := List.inj_on_of_nodup_map keyed.keys inside' inside
        (Prod.ext (isFor_iff.mp key).1 (isFor_iff.mp key).2)
      rw [← equal]
      exact kept

/-- Nothing but the device of the machine goes from the table. -/
theorem records_removed {context : AckContext} (removal : s.RemovalCarriedOut req context) (v : ℤ)
    (device : ℤ × ℤ) : Records (s.deleteVmUsbInfo req context).vmUsb v device ↔
      Records s.vmUsb v device ∧ ¬(v = req.vid ∧ device = req.usbInfo.device) := by
  rw [deleteVmUsbInfo_vmUsb]
  cases deleted : context.deleted req with
  | none =>
      refine ⟨fun recorded => ⟨recorded, ?_⟩, And.left⟩
      rintro ⟨rfl, rfl⟩
      exact removal.2 (.inl deleted) recorded
  | some taken =>
      have precise := removal.1 taken deleted
      rw [records_filter]
      constructor
      · rintro ⟨row, inside, kept, key⟩
        refine ⟨⟨row, inside, key⟩, fun same => ?_⟩
        rw [precise row inside, ← same.1, ← same.2, key] at kept
        cases kept
      · rintro ⟨⟨row, inside, key⟩, other⟩
        refine ⟨row, inside, ?_, key⟩
        rw [precise row inside, ← Bool.not_eq_true, isFor_iff]
        rw [isFor_iff] at key
        rwa [key.1, key.2]

theorem removed_sublist (s : UsbState) (req : VmUsbOp) (context : AckContext) :
    (s.deleteVmUsbInfo req context).vmUsb.Sublist s.vmUsb := by
  rw [deleteVmUsbInfo_vmUsb]
  cases context.deleted req with
  | none => exact .refl _
  | some taken => exact List.filter_sublist

theorem agrees_of_removal (agrees : s.Agrees) (found : s.vms req.vid = some pvm)
    {context : AckContext} (removal : s.RemovalCarriedOut req context) :
    (s.deleteVmUsbInfo req context).Agrees := by
  have listed := agrees.listed req.vid pvm found
  have rows := removed_sublist s req context
  constructor
  · intro row inside other inside'
    exact agrees.single row (rows.mem inside) other (rows.mem inside')
  · intro v vm read
    rw [deleteVmUsbInfo_vms] at read
    by_cases same : v = req.vid
    · rw [if_pos same, same, found] at read
      obtain rfl := Option.some.inj read
      refine ⟨?_, fun device => ?_, ?_⟩
      · rw [eraseP_devices]
        exact listed.distinct.erase _
      · rw [mem_erased listed, records_removed removal, same]
        simp [and_comm]
      · dsimp only
        split
        · rfl
        next uncommitted =>
        rw [eraseP_absent listed (removal.2 (.inr (by simpa using uncommitted))), listed.saved]
    · rw [if_neg same] at read
      have others := agrees.listed v vm read
      refine ⟨others.distinct, fun device => ?_, others.saved⟩
      rw [others.exactly, records_removed removal]
      simp [same]

theorem deleteVmUsbInfo_agrees_iff (keyed : s.Keyed) (agrees : s.Agrees)
    (found : (s.vms req.vid).isSome) (context : AckContext) :
    (s.deleteVmUsbInfo req context).Agrees ↔ s.RemovalCarriedOut req context := by
  obtain ⟨pvm, read⟩ := Option.isSome_iff_exists.mp found
  refine ⟨fun after => ⟨fun taken deleted => ?_, fun kept => ?_⟩, agrees_of_removal agrees read⟩
  · exact taken_of_agrees keyed agrees read deleted after
  · exact unrecorded_of_agrees agrees read kept after

end Removal

section Steps

variable {s : UsbState} {req : VmUsbOp}

theorem without_devices (keyed : s.Keyed) (agrees : s.Agrees) {action : VmAction}
    (stored : action ∈ s.actions) (own : s.OwnRows action) {context : AckContext}
    (removal : s.RemovalCarriedOut action.messageReq context) :
    (s.without action.id).SameDevices (s.deleteVmUsbInfo action.messageReq context) := by
  have byAction : ∀ row ∈ s.vmUsb, row.pluggedBy = action.id ↔
      row.isFor action.messageReq.vid action.messageReq.usbInfo.device = true :=
    fun row inside => ⟨keyed.linked action stored row inside, own row inside⟩
  have plugged : ∀ v pvm, s.vms v = some pvm → ∀ info ∈ pvm.usb,
      (s.vmUsb.any fun row => row.pluggedBy = action.id && row.isFor v info.device) =
        (v = action.messageReq.vid && info.device = action.messageReq.usbInfo.device) := by
    intro v pvm found info inside
    rw [Bool.eq_iff_iff]
    simp only [List.any_eq_true, Bool.and_eq_true, decide_eq_true_eq]
    constructor
    · rintro ⟨row, inside, own, key⟩
      have mine := isFor_iff.mp ((byAction row inside).mp own)
      rw [isFor_iff] at key
      exact ⟨key.1.symm.trans mine.1, key.2.symm.trans mine.2⟩
    · rintro ⟨rfl, device⟩
      obtain ⟨row, inside, key⟩ := ((agrees.listed _ pvm found).exactly info.device).mp
        (List.mem_map_of_mem inside)
      exact ⟨row, inside, (byAction row inside).mpr (device ▸ key), key⟩
  constructor
  · funext v
    rw [deleteVmUsbInfo_vms]
    cases found : s.vms v with
    | none =>
        simp [UsbState.without, found]
    | some pvm =>
        have listed := agrees.listed v pvm found
        have filtered : (s.without action.id).vms v = some
            ⟨pvm.usb.filter fun info =>
                !(v = action.messageReq.vid && info.device = action.messageReq.usbInfo.device),
              pvm.usb.filter fun info => !(v = action.messageReq.vid &&
                info.device = action.messageReq.usbInfo.device)⟩ := by
          simp only [UsbState.without, found, Option.map_some, listed.saved]
          have same := List.filter_congr fun info inside =>
            congrArg Bool.not (plugged v pvm found info inside)
          rw [same]
        rw [filtered]
        by_cases here : v = action.messageReq.vid
        · have erased : pvm.usb.eraseP (·.device = action.messageReq.usbInfo.device) =
              pvm.usb.filter fun info => !(decide (v = action.messageReq.vid) &&
                decide (info.device = action.messageReq.usbInfo.device)) := by
            rw [eraseP_eq_filter _ listed.distinct]
            simp [here]
          rw [if_pos here, Option.map_some, ← erased]
          cases committed : context.committed with
          | true => rfl
          | false =>
              rw [eraseP_absent listed (here ▸ removal.2 (.inr committed)), listed.saved]
              rfl
        · rw [if_neg here]
          simp only [here, decide_false, Bool.false_and, Bool.not_false, List.filter_true]
          exact congrArg (fun stored => some (VirtualMachine.mk pvm.usb stored)) listed.saved
  · rw [deleteVmUsbInfo_vmUsb]
    cases deleted : context.deleted action.messageReq with
    | none =>
        refine (List.filter_eq_self.mpr fun row inside => ?_).symm
        have absent := removal.2 (.inl deleted)
        simpa using fun own => absent ⟨row, inside, (byAction row inside).mp own⟩
    | some taken =>
        refine List.filter_congr fun row inside => ?_
        rw [removal.1 taken deleted row inside, Bool.eq_iff_iff]
        simp [byAction row inside]

/-- Rows that go, and actions that come with a new id. -/
theorem UsbState.Keyed.shrink {next : UsbState} (keyed : s.Keyed)
    (rows : next.vmUsb.Sublist s.vmUsb) (machines : ∀ v, (next.vms v).isSome = (s.vms v).isSome)
    (later : s.nextId ≤ next.nextId)
    (actions : ∀ action ∈ next.actions,
      action ∈ s.actions ∨ action.id = s.nextId ∧ s.nextId < next.nextId) : next.Keyed where
  keys := keyed.keys.sublist (rows.map _)
  owned row inside := by
    rw [machines]
    exact keyed.owned row (rows.mem inside)
  plugged row inside := lt_of_lt_of_le (keyed.plugged row (rows.mem inside)) later
  given action inside := by
    rcases actions action inside with old | new
    · exact lt_of_lt_of_le (keyed.given action old) later
    · omega
  linked action inside row there := by
    intro own
    rcases actions action inside with old | new
    · exact keyed.linked action old row (rows.mem there) own
    · have before := keyed.plugged row (rows.mem there)
      omega

/-- A row that is new, and actions of its request. -/
theorem UsbState.Keyed.insert {next : UsbState} (keyed : s.Keyed) (found : (s.vms req.vid).isSome)
    (absent : ¬Records s.vmUsb req.vid req.usbInfo.device)
    (rows : next.vmUsb = s.vmUsb ++ [⟨req.vid, req.usbInfo, s.nextId⟩])
    (machines : ∀ v, (next.vms v).isSome = (s.vms v).isSome) (later : next.nextId = s.nextId + 1)
    (actions : ∀ action ∈ next.actions,
      action ∈ s.actions ∨ action.id = s.nextId ∧ action.messageReq = req) : next.Keyed := by
  constructor
  · rw [rows, List.map_append, List.map_singleton, List.nodup_append]
    refine ⟨keyed.keys, List.nodup_singleton _, ?_⟩
    rintro key inside _ single rfl
    obtain ⟨row, there, same⟩ := List.mem_map.mp inside
    rw [List.mem_singleton.mp single, Prod.mk.injEq] at same
    exact absent ⟨row, there, isFor_iff.mpr same⟩
  · intro row inside
    rw [machines]
    rw [rows, List.mem_append, List.mem_singleton] at inside
    rcases inside with inside | rfl
    · exact keyed.owned row inside
    · exact found
  · intro row inside
    rw [later]
    rw [rows, List.mem_append, List.mem_singleton] at inside
    rcases inside with inside | rfl
    · have before := keyed.plugged row inside
      omega
    · exact Nat.lt_succ_self _
  · intro action inside
    rcases actions action inside with old | new
    · have before := keyed.given action old
      omega
    · omega
  · intro action inside row there own
    rw [rows, List.mem_append, List.mem_singleton] at there
    rcases actions action inside with old | ⟨new, rfl⟩
    · rcases there with there | rfl
      · exact keyed.linked action old row there own
      · exact absurd own (Nat.ne_of_gt (keyed.given action old))
    · rcases there with there | rfl
      · exact absurd (own.trans new) (Nat.ne_of_lt (keyed.plugged row there))
      · exact isFor_iff.mpr ⟨rfl, rfl⟩

theorem keyed_plugIn (keyed : s.Keyed) (found : (s.vms req.vid).isSome) (context : OpContext) :
    (s.plugIn req context).2.Keyed := by
  have machines : ∀ v, ((s.plugIn req context).2.vms v).isSome = (s.vms v).isSome := by
    intro v
    rw [plugIn_vms]
    split
    · exact Option.isSome_map
    · rfl
  have rows := plugIn_vmUsb s req context
  have later := plugIn_nextId s req context
  by_cases row : s.insertsRow req context = true
  · rw [if_pos row] at rows
    exact keyed.insert found (insertsRow_absent row) rows machines later fun _ => plugIn_actions
  · rw [if_neg row] at rows
    refine keyed.shrink (rows ▸ .refl _) machines (by omega) fun action inside => ?_
    rcases plugIn_actions inside with old | new
    · exact .inl old
    · exact .inr ⟨new.1, by omega⟩

theorem keyed_deleteVmUsbInfo (keyed : s.Keyed) (context : AckContext) :
    (s.deleteVmUsbInfo req context).Keyed := by
  have ⟨actions, nextId, _⟩ := deleteVmUsbInfo_rest s req context
  refine keyed.shrink (removed_sublist s req context) (fun v => ?_) (le_of_eq nextId.symm)
    fun action inside => .inl (actions ▸ inside)
  rw [deleteVmUsbInfo_vms]
  split
  · exact Option.isSome_map
  · rfl

theorem keyed_endVmOp (keyed : s.Keyed) (action : VmAction) (ended : Bool) :
    (s.endVmOp action ended).Keyed := by
  rw [UsbState.endVmOp]
  split
  · exact keyed.shrink (.refl _) (fun _ => rfl) le_rfl fun _ inside =>
      .inl (List.mem_filter.mp inside).1
  · exact keyed

theorem keyed_operatePlugoutUSB (keyed : s.Keyed) (context : OpContext) :
    (operatePlugoutUSB s req context).2.Keyed := by
  rw [operatePlugoutUSB]
  split
  · exact keyed
  dsimp only
  split
  · refine keyed.shrink (.refl _) (fun _ => rfl) (Nat.le_succ _) fun action inside => ?_
    rcases List.mem_append.mp inside with old | new
    · exact .inl (List.mem_filter.mp old).1
    · rw [List.mem_singleton.mp new]
      exact .inr ⟨rfl, Nat.lt_succ_self _⟩
  · exact keyed.shrink (.refl _) (fun _ => rfl) le_rfl fun _ inside =>
      .inl (List.mem_filter.mp inside).1

theorem keyed_operatePluginUSB (keyed : s.Keyed) (found : (s.vms req.vid).isSome)
    (context : OpContext) : (operatePluginUSB s req context).2.Keyed := by
  by_cases recorded : context.selects = true ∧
      ∃ row ∈ s.vmUsb, row.info.device = req.usbInfo.device
  · rw [operatePluginUSB_found recorded.1 recorded.2]
    exact keyed
  rw [operatePluginUSB_new recorded]
  exact keyed_plugIn keyed found context

/-- The tables keep their keys whatever the steps do. -/
theorem keyed_next (keyed : s.Keyed) (label : UsbLabel) : (s.next label).Keyed := by
  cases label with
  | operate req context =>
      rw [UsbState.next, operateVM]
      split
      · exact keyed
      · exact keyed
      next pvm found allowed =>
      rw [doOperation]
      split
      · exact keyed_operatePluginUSB keyed (by rw [found]; rfl) context
      · exact keyed_operatePlugoutUSB keyed context
      · exact keyed_operatePlugoutUSB keyed context
  | ack id state context =>
      rw [UsbState.next]
      split
      · exact keyed
      rw [responseFeedback]
      split
      · exact keyed
      split
      · exact keyed_endVmOp (keyed_deleteVmUsbInfo keyed context) _ _
      · exact keyed_endVmOp keyed _ _

theorem find_answered {id : ℕ} {context : AckContext} {action : VmAction}
    (answered : s.answered id context = some action) :
    action ∈ s.actions ∧ action.id = id ∧ (s.vms action.messageReq.vid).isSome := by
  rw [UsbState.answered, Option.filter_eq_some_iff] at answered
  obtain ⟨found, taken⟩ := answered
  have named := List.find?_some found
  rw [Bool.and_eq_true] at taken
  exact ⟨List.mem_of_find?_eq_some found, by simpa using named, taken.2⟩

/-- A request. -/
theorem operate_lawful_iff (agrees : s.Agrees) (context : OpContext) :
    (s.next (.operate req context)).Agrees ∧
        UsbLabel.LeavesBoth s (.operate req context) (s.next (.operate req context)) ↔
      s.CarriedOut (.operate req context) := by
  by_cases plugs : s.PlugsIn req context
  · rw [next_operate_plugIn plugs]
    by_cases found : context.selects = true ∧
        ∃ row ∈ s.vmUsb, row.info.device = req.usbInfo.device
    · rw [operatePluginUSB_found found.1 found.2]
      refine ⟨fun _ _ => ?_, fun _ => ⟨agrees, fun _ _ => ⟨rfl, rfl⟩⟩⟩
      rw [UsbState.PlugInCarriedOut, if_pos found.2]
      exact found.1
    · rw [operatePluginUSB_new found]
      by_cases done : s.insertsRow req context = true ∧ context.Stored
      · rw [plugIn_agrees_iff agrees done.1 done.2]
        constructor
        · rintro ⟨new, -⟩ -
          rw [UsbState.PlugInCarriedOut, if_neg new]
          exact done
        · intro carried
          refine ⟨fun recorded => found ⟨?_, recorded⟩, fun _ makes => ?_⟩
          · have selects := carried plugs
            rwa [UsbState.PlugInCarriedOut, if_pos recorded] at selects
          · obtain ⟨action, inside, own⟩ := @plugIn_makes s req _ done.2
            exact absurd own (makes action inside)
      · refine ⟨fun after => absurd after.1 (plugIn_disagrees agrees plugs.found done),
          fun carried => ?_⟩
        have condition := carried plugs
        rw [UsbState.PlugInCarriedOut] at condition
        split at condition
        next recorded => exact absurd ⟨condition, recorded⟩ found
        next new => exact absurd condition done
  · have same := next_operate_other plugs
    exact ⟨fun _ plugged => absurd plugged plugs,
      fun _ => ⟨same.agrees.mpr agrees, fun _ _ => same⟩⟩

/-- The rows that are left are those of others, so that what was deleted was the action's own. -/
theorem ownRows_of_removal {action : VmAction} {context : AckContext}
    (removal : s.RemovalCarriedOut action.messageReq context)
    (left : (s.deleteVmUsbInfo action.messageReq context).vmUsb =
      s.vmUsb.filter (·.pluggedBy ≠ action.id)) : s.OwnRows action := by
  intro row inside key
  by_contra other
  have stays : row ∈ (s.deleteVmUsbInfo action.messageReq context).vmUsb := by
    rw [left]
    exact List.mem_filter.mpr ⟨inside, by simpa using other⟩
  rw [deleteVmUsbInfo_vmUsb] at stays
  cases deleted : context.deleted action.messageReq with
  | none => exact removal.2 (.inl deleted) ⟨row, inside, key⟩
  | some taken =>
      rw [deleted] at stays
      have kept := (List.mem_filter.mp stays).2
      rw [removal.1 taken deleted row inside, key] at kept
      cases kept

/-- An acknowledgement. -/
theorem ack_lawful_iff (keyed : s.Keyed) (agrees : s.Agrees) (id : ℕ) (state : Status)
    (context : AckContext) :
    (s.next (.ack id state context)).Agrees ∧
        UsbLabel.LeavesBoth s (.ack id state context) (s.next (.ack id state context)) ↔
      s.CarriedOut (.ack id state context) := by
  rw [UsbState.next]
  cases answered : s.answered id context with
  | none =>
      exact ⟨fun _ action func some => absurd (answered ▸ some) (by simp),
        fun _ => ⟨agrees, fun action some => absurd (answered ▸ some) (by simp)⟩⟩
  | some action =>
      obtain ⟨stored, rfl, found⟩ := find_answered answered
      have only : ∀ other, s.answered action.id context = some other → other = action :=
        fun other some => Option.some.inj (some.symm.trans answered)
      dsimp only
      cases func : feedback action state with
      | none =>
          rw [responseFeedback, func]
          refine ⟨fun _ other func' some given => ?_,
            fun _ => ⟨agrees, fun other some failed => ?_⟩⟩
          · rw [only other some, func] at given
            cases given
          · rw [only other some, func] at failed
            cases failed
      | some func' =>
          rw [responseFeedback, func]
          dsimp only
          cases removes : func'.removesUsb with
          | false =>
              have same := endVmOp_devices s action context.ended
              refine ⟨fun _ other given some fed removing => ?_,
                fun _ => ⟨same.agrees.mpr agrees, fun other some failed => ?_⟩⟩
              · rw [only other some, func] at fed
                rw [← Option.some.inj fed, removes] at removing
                cases removing
              · rw [only other some, func] at failed
                rw [Option.some.inj failed] at removes
                cases removes
          | true =>
              have same := endVmOp_devices (s.deleteVmUsbInfo action.messageReq context) action
                context.ended
              have agreement := deleteVmUsbInfo_agrees_iff keyed agrees found context
              rw [if_pos rfl, same.agrees, agreement]
              constructor
              · rintro ⟨removal, leaves⟩ other func given some -
                obtain rfl := only other given
                obtain rfl := Option.some.inj (func.symm.trans some)
                refine ⟨removal, fun failed => ownRows_of_removal removal ?_⟩
                exact same.2.symm.trans (leaves other given (failed ▸ func)).2
              · intro carried
                obtain ⟨removal, own⟩ := carried action func' answered func removes
                refine ⟨removal, fun other given failed => ?_⟩
                rw [only other given, func] at failed
                have traceless :=
                  without_devices keyed agrees stored (own (Option.some.inj failed)) removal
                exact ⟨same.1.trans traceless.1, same.2.trans traceless.2⟩

theorem step_lawful_iff (keyed : s.Keyed) (agrees : s.Agrees) (label : UsbLabel) (next : UsbState) :
    LawfulStep s label next ↔ Guarded UsbState.CarriedOut UsbStep s label next := by
  have lawful : (s.next label).Agrees ∧ label.LeavesBoth s (s.next label) ↔ s.CarriedOut label := by
    cases label with
    | operate req context => exact operate_lawful_iff agrees context
    | ack id state context => exact ack_lawful_iff keyed agrees id state context
  constructor
  · rintro ⟨rfl, after⟩
    exact ⟨lawful.mp after, rfl⟩
  · rintro ⟨carried, rfl⟩
    exact ⟨rfl, lawful.mpr carried⟩

/-- In a run the table and the configurations agree in every state, and every plug-in that is
refused or fails leaves no trace, just where the database carries out what the steps ask of it. -/
theorem usb_agrees_iff {labels : List UsbLabel} {last : UsbState} (keyed : s.Keyed)
    (agrees : s.Agrees) :
    Run LawfulStep s labels last ↔ Run (Guarded UsbState.CarriedOut UsbStep) s labels last := by
  constructor
  · apply Run.convert (P := fun s => s.Keyed ∧ s.Agrees) ⟨keyed, agrees⟩
    rintro before label after ⟨keyed, agrees⟩ lawful
    have next := lawful.1
    rw [UsbStep] at next
    exact ⟨(step_lawful_iff keyed agrees label after).mp lawful,
      next ▸ keyed_next keyed label, lawful.2.1⟩
  · apply Run.convert (P := fun s => s.Keyed ∧ s.Agrees) ⟨keyed, agrees⟩
    rintro before label after ⟨keyed, agrees⟩ carried
    have lawful := (step_lawful_iff keyed agrees label after).mpr carried
    have next := lawful.1
    rw [UsbStep] at next
    exact ⟨lawful, next ▸ keyed_next keyed label, lawful.2.1⟩

/-! One machine without devices, and a disk that is plugged in. -/

def oneMachine : UsbState := ⟨fun vid => if vid = 1 then some ⟨[], []⟩ else none, [], [], 0⟩

def plugInDisk : VmUsbOp := ⟨1, .plugInUsb, 1921, 21863, "disk"⟩

theorem oneMachine_keyed : oneMachine.Keyed :=
  ⟨List.nodup_nil, by simp [oneMachine], by simp [oneMachine], by simp [oneMachine],
    by simp [oneMachine]⟩

theorem oneMachine_agrees : oneMachine.Agrees := by
  refine ⟨by simp [oneMachine], fun vid pvm found => ?_⟩
  rw [oneMachine] at found
  dsimp only at found
  split at found
  · obtain rfl := Option.some.inj found
    exact ⟨List.nodup_nil, by simp [oneMachine, Records], rfl⟩
  · cases found

def failedCommit : UsbLabel := .operate plugInDisk ⟨none, true, true, none, .success, false⟩
def plugged : UsbLabel := .operate plugInDisk ⟨none, true, true, none, .success, true⟩
def failedOnHost : UsbLabel := .ack 0 .error ⟨true, true, true, none, true, true⟩

theorem plugged_carriedOut : oneMachine.CarriedOut plugged := by
  intro plugs
  rw [UsbState.PlugInCarriedOut, if_neg (by simp [oneMachine])]
  exact ⟨by decide, rfl, rfl⟩

theorem failedOnHost_carriedOut : (oneMachine.next plugged).CarriedOut failedOnHost := by
  intro action func answered fed removes
  have first : (oneMachine.next plugged).answered 0 ⟨true, true, true, none, true, true⟩ =
      some ⟨0, plugInDisk, .endVmOp, .pluginUsbFailed⟩ := rfl
  obtain rfl := Option.some.inj (first.symm.trans answered)
  have rows : (oneMachine.next plugged).vmUsb = [⟨1, ⟨1921, 21863, "disk"⟩, 0⟩] := rfl
  refine ⟨⟨fun taken deleted => ?_, fun none => ?_⟩, fun _ => ?_⟩
  · have precise : AckContext.deleted ⟨true, true, true, none, true, true⟩ plugInDisk =
        some fun row => row.isFor 1 (1921, 21863) && row.info.name = "disk" := rfl
    obtain rfl := Option.some.inj (precise.symm.trans deleted)
    rw [rows]
    decide
  · rcases none with none | none
    · cases none
    · cases none
  · rw [UsbState.OwnRows, rows]
    decide

/-- The disk is recorded, and removed again when the host has failed to plug it in. -/
theorem usb_agrees_plugged :
    Run LawfulStep oneMachine [plugged, failedOnHost]
      ((oneMachine.next plugged).next failedOnHost) :=
  (usb_agrees_iff oneMachine_keyed oneMachine_agrees).mpr
    ((Run.single ⟨plugged_carriedOut, rfl⟩).snoc ⟨failedOnHost_carriedOut, rfl⟩)

/-- The plug-in fails, since its transaction is not carried out, and leaves its row and the disk in
the cached list; the next one answers that the device is used. -/
theorem usb_left_behind : oneMachine.Keyed ∧ oneMachine.Agrees ∧
    Run UsbStep oneMachine [failedCommit] (oneMachine.next failedCommit) ∧
    ¬(oneMachine.next failedCommit).Agrees ∧
    ¬failedCommit.LeavesBoth oneMachine (oneMachine.next failedCommit) ∧
    (oneMachine.next failedCommit).actions = [] ∧
    (oneMachine.next failedCommit).vmUsb = [⟨1, plugInDisk.usbInfo, 0⟩] ∧
    (oneMachine.next failedCommit).vms 1 = some ⟨[plugInDisk.usbInfo], []⟩ ∧
    (operateVM (oneMachine.next failedCommit) plugInDisk
      ⟨none, true, true, none, .success, true⟩).1 = (.success, "usb already be used!") := by
  have listed : (oneMachine.next failedCommit).vms 1 = some ⟨[plugInDisk.usbInfo], []⟩ := by decide
  refine ⟨oneMachine_keyed, oneMachine_agrees, Run.single rfl, fun agrees => ?_, fun leaves => ?_,
    by decide, by decide, listed, by decide⟩
  · have saved := (agrees.listed 1 _ listed).saved
    cases saved
  · have same := (leaves rfl (by decide)).1
    rw [same] at listed
    exact absurd listed (by decide)

end Steps

end Vm.Usb

end Tecs
