import Tecs.Library.Interleaving
import Tecs.Workflow.PoolQuiet
import Tecs.Workflow.WorkflowLocks

set_option autoImplicit false

namespace Tecs

open Effect

namespace WorkflowLock

/-- A message that asks an engine to delete or to roll back a workflow, and the temporary
unit its sender waits at. -/
structure Request where
  unit : String
  engine : Int
  event : EngineEvent
  workflowId : String
  undoes : event = .deleteWorkflow ∨ event = .rollbackWorkflow
deriving DecidableEq

/-- The calls of the pool, those on `work_flow_mutex` and the map it protects, and the
messages between the users and the engines. -/
inductive LockCall
  | pool (c : PoolCall)
  | mutexLock
  | mutexUnlock
  | find (workflowId : String)
  | lock (workflowId : String)
  | unlock (workflowId : String)
  | tempUnitName (stem : String)
  | send (request : Request)
  | wait (unit : String)
  | receive (engine : Int)

@[reducible] def LockCall.Reply : LockCall → Type
  | pool c => c.Reply
  | mutexLock => Unit
  | mutexUnlock => Unit
  | find _ => Bool
  | lock _ => Unit
  | unlock _ => Unit
  | tempUnitName _ => String
  | send _ => Unit
  | wait _ => Status
  | receive _ => Request

abbrev locking : Signature := ⟨LockCall, LockCall.Reply⟩

abbrev Locking := Program locking

def perform (c : LockCall) : Locking c.Reply := Program.perform (S := locking) c

/-- A function with `MutexLock lock (work_flow_mutex)` in front; the mutex is recursive. -/
def mutexLocked {α : Type} (p : Locking α) : Locking α := do
  perform .mutexLock
  let value ← p
  perform .mutexUnlock
  return value

def isLockWorkflow (workflowId : String) : Locking Bool :=
  mutexLocked (perform (.find workflowId))

/-- Send from a temporary unit and wait there for at most three seconds. -/
def request (stem : String) (engine : Int) (event : EngineEvent)
    (undoes : event = .deleteWorkflow ∨ event = .rollbackWorkflow) (workflowId : String) :
    Locking Status := do
  let unit ← perform (.tempUnitName stem)
  perform (.send ⟨unit, engine, event, workflowId, undoes⟩)
  perform (.wait unit)

/-- How the calls of the pool are carried out. -/
def carry : (c : PoolCall) → Locking c.Reply
  | .isLockWorkflow workflowId => isLockWorkflow workflowId
  | .request engine .deleteWorkflow workflowId =>
      request "DeleteWorkflow" engine .deleteWorkflow (.inl rfl) workflowId
  | .request engine .rollbackWorkflow workflowId =>
      request "RollbackWorkflow" engine .rollbackWorkflow (.inr rfl) workflowId
  | c => perform (.pool c)

def carried {α : Type} (p : Pool α) : Locking α := p.translate (S := pool) carry

def lockWorkflow (actionId : String) : Locking Status :=
  mutexLocked do
    match ← carried (getWorkflow actionId) with
    | .error ret => return ret
    | .ok workflowId => do
        perform (.lock workflowId)
        return Status.success

def unlockWorkflow (actionId : String) : Locking Status :=
  mutexLocked do
    match ← carried (getWorkflow actionId) with
    | .error ret => return ret
    | .ok workflowId => do
        perform (.unlock workflowId)
        return Status.success

variable (env : Process)

def deleteWorkflow (actionId : String) : Locking Status :=
  mutexLocked (carried (Tecs.deleteWorkflow env actionId))

def rollbackWorkflow (actionId : String) : Locking Status :=
  mutexLocked (carried (Tecs.rollbackWorkflow env actionId))

/-- The engine with this index takes a message and handles it. -/
def handle (index : Int) : Locking Unit := do
  let request ← perform (.receive index)
  carried (WorkflowEngine.messageEntry env (WorkflowEngine.engineWhere env index) request.event
    request.workflowId request.unit)

/-- `others` stands for whatever else writes to the tables. -/
inductive Operation
  | lock (actionId : String)
  | unlock (actionId : String)
  | delete (actionId : String)
  | rollback (actionId : String)
  | handle (index : Int)
  | others (tables : Database)

def program : Operation → Locking Unit
  | .lock actionId => do
      let _ ← lockWorkflow actionId
      return ()
  | .unlock actionId => do
      let _ ← unlockWorkflow actionId
      return ()
  | .delete actionId => do
      let _ ← deleteWorkflow env actionId
      return ()
  | .rollback actionId => do
      let _ ← rollbackWorkflow env actionId
      return ()
  | .handle index => handle env index
  | .others _ => return ()

/-! What the calls do. -/

/-- What the threads share. A reply waits under the name of the unit it is for. -/
structure Office (Thread : Type) where
  tables : Database
  locks : WorkflowLocks Thread
  mutex : Option Thread
  queue : List Request
  replies : List (String × Status)

/-- What a thread keeps: its transaction and how often it has locked the mutex. The history
variables tell the workflows it has locked, the one it found unlocked since it took the
mutex, the request it waits for, the one it handles as an engine, and the rollback workflows
it read to delete them. -/
structure Caller where
  context : TransactionContext Statement
  depth : Nat
  held : List String
  unlocked : Option String
  sent : Option Request
  handling : Option Request
  rollbacks : List String

def Caller.boot : Caller := ⟨.enable, 0, [], none, none, none, []⟩

def Caller.deletes (own : Caller) : Bool :=
  match own.handling with
  | some request => decide (request.event = .deleteWorkflow)
  | none => false

/-- The thread after a call of the pool. -/
def Caller.note (own : Caller) : (c : PoolCall) → c.Reply → Caller
  | .select (.rollbackWorkflow _), .value workflowId =>
      if own.deletes then { own with rollbacks := workflowId :: own.rollbacks } else own
  | .send (.result _ _), _ => { own with handling := none, rollbacks := [] }
  | _, _ => own

def deliver (c : PoolCall) (replies : List (String × Status)) : List (String × Status) :=
  match c with
  | .send (.result ret option) => (option.receiver, ret) :: replies
  | _ => replies

variable {Thread : Type} [DecidableEq Thread]

/-- How the calls are answered. A request may be lost, and whoever waits may give up. -/
def answers (thread : Thread) (c : LockCall) (shared : Office Thread) (own : Caller)
    (reply : c.Reply) (shared' : Office Thread) (own' : Caller) : Prop :=
  match c, reply with
  | .pool c, reply => ∃ tables context, Answers c shared.tables own.context reply tables context ∧
      shared' = { shared with tables := tables, replies := deliver c shared.replies } ∧
      own' = { own.note c reply with context := context }
  | .mutexLock, _ => (shared.mutex = none ∨ shared.mutex = some thread) ∧
      shared' = { shared with mutex := some thread } ∧ own' = { own with depth := own.depth + 1 }
  | .mutexUnlock, _ =>
      shared' = { shared with mutex := if own.depth = 1 then none else shared.mutex } ∧
      own' = { own with
        depth := own.depth - 1
        unlocked := if own.depth = 1 then none else own.unlocked }
  | .find workflowId, reply => reply = shared.locks.isLocked workflowId ∧ shared' = shared ∧
      own' = { own with unlocked := if reply then none else some workflowId }
  | .lock workflowId, _ =>
      shared' = { shared with locks := shared.locks.lock thread workflowId } ∧
      own' = { own with held := workflowId :: own.held, unlocked := none }
  | .unlock workflowId, _ =>
      shared' = { shared with locks := shared.locks.unlock thread workflowId } ∧
      own' = { own with held := own.held.filter (· ≠ workflowId) }
  | .tempUnitName _, _ => shared' = shared ∧ own' = own
  | .send request, _ =>
      (shared' = { shared with queue := shared.queue ++ [request] } ∨ shared' = shared) ∧
      own' = { own with sent := some request }
  | .wait unit, reply => ((unit, reply) ∈ shared.replies ∨ reply = Status.errorTimeOut) ∧
      shared' = { shared with replies := shared.replies.filter (·.1 ≠ unit) } ∧
      own' = { own with sent := none }
  | .receive engine, reply => reply ∈ shared.queue ∧ reply.engine = engine ∧
      shared' = { shared with queue := shared.queue.erase reply } ∧
      own' = { own with handling := some reply, rollbacks := [] }

def machine (env : Process) (Thread : Type) [DecidableEq Thread] :
    Machine locking (Office Thread) Caller Thread Operation where
  program := fun _ operation => program env operation
  boot := fun _ => .boot
  enter := fun _ operation shared own =>
    match operation with
    | .others tables => ({ shared with tables := tables }, own)
    | _ => (shared, own)
  answers := answers

def start (Thread : Type) (tables : Database) :
    Machine.State locking (Office Thread) Caller Thread where
  shared := ⟨tables, .empty, none, [], []⟩
  own := fun _ => .boot
  running := fun _ => none

end WorkflowLock

end Tecs
