import Tecs.Library.Program
import Tecs.Sky.Errcode

set_option autoImplicit false

namespace Tecs

open Effect

abbrev TimerId := Nat

def invalidTimerId : TimerId := 0

namespace TimerType

def relative : UInt32 := 1
def loop : UInt32 := 2
def absolute : UInt32 := 3

end TimerType

structure TimeOut where
  type : UInt32
  duration : UInt32
  msgid : UInt32
  arg : UInt64
  strArg : String

def TimeOut.validate (timeout : TimeOut) : Bool :=
  timeout.type = TimerType.relative || timeout.type = TimerType.loop ||
    timeout.type = TimerType.absolute

structure TimeValue where
  second : UInt32
  milisecond : UInt32
deriving DecidableEq

/-- The moment a number of milliseconds later, carried into the seconds above 1000. -/
def TimeValue.after (time : TimeValue) (duration : UInt32) : TimeValue :=
  let milisecond := time.milisecond + duration
  if milisecond > 1000 then ⟨time.second + milisecond / 1000, milisecond % 1000⟩
  else ⟨time.second, milisecond⟩

structure TimeKey where
  second : UInt32
  milisecond : UInt32
  tid : TimerId
deriving DecidableEq

def TimeKey.of (time : TimeValue) (tid : TimerId) : TimeKey :=
  ⟨time.second, time.milisecond, tid⟩

instance : Ord TimeKey where
  compare := compareLex (compareOn TimeKey.second)
    (compareLex (compareOn TimeKey.milisecond) (compareOn TimeKey.tid))

instance : Std.TransOrd TimeKey :=
  inferInstanceAs (Std.TransCmp (compareLex (compareOn TimeKey.second)
    (compareLex (compareOn TimeKey.milisecond) (compareOn TimeKey.tid))))

instance : Std.LawfulEqOrd TimeKey where
  eq_of_compare := by
    intro a b same
    change compareLex _ _ a b = .eq at same
    simp only [compareLex_eq_eq, compareOn, Std.LawfulEqOrd.compare_eq_iff_eq] at same
    obtain ⟨second, milisecond, tid⟩ := same
    cases a
    cases b
    simp_all

variable {Client : Type}

/-- A control block. Its id is its place in the pool. -/
structure TimerBlock (Client : Type) where
  msgid : UInt32
  timerType : UInt32
  timerDuration : UInt32
  timerArg : UInt64
  timerStrArg : String
  timeout : TimeValue
  client : Option Client
  flowNumber : UInt32
  timing : Bool

def TimerBlock.fresh : TimerBlock Client :=
  ⟨0, TimerType.relative, 0, 0, "", ⟨0, 0⟩, none, 0, false⟩

def TimerBlock.key (block : TimerBlock Client) (tid : TimerId) : TimeKey := .of block.timeout tid

structure TimerMessage where
  tid : TimerId
  msgid : UInt32
  type : UInt32
  flow : UInt32
  arg : UInt64
  strArg : String
deriving DecidableEq

/-- The message `TimeoutHook` hands to `DoTimer`. -/
def TimerBlock.message (block : TimerBlock Client) (tid : TimerId) : TimerMessage :=
  ⟨tid, block.msgid, block.timerType, block.flowNumber, block.timerArg, block.timerStrArg⟩

abbrev ScanTable := Std.TreeMap TimeKey TimerId

/-- What a running `Scan` knows: the time it took, and the entry it has marked but whose
hook has not returned. -/
structure Scan where
  now : TimeValue
  marked : Option (TimeKey × TimerId)

/-- The manager. A running `Scan` holds `rel_scan_table_mutex`. -/
structure TimerManager (Client : Type) where
  pool : List (TimerBlock Client)
  relScanTable : ScanTable
  freelist : List TimerId
  scanning : Option Scan

def onceAllocCount : Nat := 32

namespace TimerManager

def idToPointer (m : TimerManager Client) (tid : TimerId) : Option (TimerBlock Client) :=
  if tid = invalidTimerId then none else m.pool[tid - 1]?

def put (m : TimerManager Client) (tid : TimerId) (block : TimerBlock Client) :
    TimerManager Client :=
  { m with pool := m.pool.set (tid - 1) block }

def allocateTimerBlock (m : TimerManager Client) : TimerManager Client :=
  { m with
    pool := m.pool ++ List.replicate onceAllocCount .fresh
    freelist := m.freelist ++ List.range' (m.pool.length + 1) onceAllocCount }

/-- The manager after `Start`. -/
def started : TimerManager Client := allocateTimerBlock ⟨[], ∅, [], none⟩

/-! `InsertTimer` and `RemoveTimer`, on one block and the scan table. -/

def insertTimer (tid : TimerId) (block : TimerBlock Client) (table : ScanTable) :
    Status × TimerBlock Client × ScanTable :=
  (.success, { block with timing := true }, table.insertIfNew (block.key tid) tid)

def removeTimer (tid : TimerId) (block : TimerBlock Client) (table : ScanTable) :
    Status × TimerBlock Client × ScanTable :=
  if block.timing = false then (.success, block, table)
  else
    match table[block.key tid]? with
    | none => (.errorObjectNotExist, block, table)
    | some _ =>
        (.success, { block with timing := false, flowNumber := block.flowNumber + 1 },
          table.erase (block.key tid))

/-! What `SetTimer`, `LoopTimer` and `StopTimer` do under `rel_scan_table_mutex`. -/

def setLocked (timeout : TimeOut) (now : TimeValue) (tid : TimerId) (block : TimerBlock Client)
    (table : ScanTable) : Status × TimerBlock Client × ScanTable :=
  let removed := if block.timing then removeTimer tid block table else (.success, block, table)
  if removed.1 ≠ .success then (.error, removed.2)
  else
    insertTimer tid
      { removed.2.1 with
        msgid := timeout.msgid
        timerType := timeout.type
        timerDuration := timeout.duration
        timerArg := timeout.arg
        timerStrArg := timeout.strArg
        timeout := now.after timeout.duration
        flowNumber := removed.2.1.flowNumber + 1 }
      removed.2.2

def loopLocked (tid : TimerId) (block : TimerBlock Client) (table : ScanTable) :
    Status × TimerBlock Client × ScanTable :=
  let removed := if block.timing then removeTimer tid block table else (.success, block, table)
  if removed.1 ≠ .success then (.error, removed.2)
  else
    let inserted := insertTimer tid
      { removed.2.1 with timeout := removed.2.1.timeout.after removed.2.1.timerDuration }
      removed.2.2
    if inserted.1 ≠ .success then (.error, inserted.2)
    else
      (.success, { inserted.2.1 with flowNumber := inserted.2.1.flowNumber + 1 }, inserted.2.2)

def stopLocked (tid : TimerId) (block : TimerBlock Client) (table : ScanTable) :
    Status × TimerBlock Client × ScanTable :=
  if block.timing = false then (.success, block, table)
  else
    let removed := removeTimer tid block table
    if removed.1 ≠ .success then (.error, removed.2)
    else (.success, { removed.2.1 with flowNumber := removed.2.1.flowNumber + 1 }, removed.2.2)

/-- Work on the block behind a pointer and on the scan table. -/
def onTimer (m : TimerManager Client) (tid : TimerId)
    (f : TimerId → TimerBlock Client → ScanTable → Status × TimerBlock Client × ScanTable) :
    Status × TimerManager Client :=
  match m.idToPointer tid with
  | none => (.errorInvalidArgument, m)
  | some block =>
      let left := f tid block m.relScanTable
      (left.1, { m.put tid left.2.1 with relScanTable := left.2.2 })

/-- What `CreateTimer` does under `free_list_mutex`; `memory` tells whether `new` succeeds. -/
def createLocked (m : TimerManager Client) (client : Client) (memory : Bool) :
    TimerId × TimerManager Client :=
  let m := if m.freelist.isEmpty && memory then m.allocateTimerBlock else m
  match m.freelist with
  | [] => (invalidTimerId, m)
  | tid :: rest =>
      let m := { m with freelist := rest }
      match m.idToPointer tid with
      | none => (invalidTimerId, m)
      | some block => (tid, m.put tid { block with client := some client })

/-- What `KillTimer` does under `free_list_mutex`. -/
def freeLocked (m : TimerManager Client) (tid : TimerId) : TimerManager Client :=
  match m.idToPointer tid with
  | none => m
  | some block =>
      { m.put tid { block with client := none, flowNumber := block.flowNumber + 1 } with
        freelist := m.freelist ++ [tid] }

def scanLock (m : TimerManager Client) (now : TimeValue) : Nat × TimerManager Client :=
  (m.relScanTable.size, { m with scanning := some ⟨now, none⟩ })

/-- The first entry, if its time has come, is marked as no longer timing. -/
def scanNext (m : TimerManager Client) : Bool × TimerManager Client :=
  match m.scanning, m.relScanTable.toList.head? with
  | some ⟨now, none⟩, some (key, tid) =>
      if compare (TimeKey.of now (2 ^ 32 - 1)) key = .lt then (false, m)
      else
        match m.idToPointer tid with
        | none => (false, m)
        | some block =>
            (true, { m.put tid { block with timing := false } with
              scanning := some ⟨now, some (key, tid)⟩ })
  | _, _ => (false, m)

/-- The hook of the marked timer has returned or thrown, and its entry is erased. -/
def scanErase (m : TimerManager Client) : TimerManager Client :=
  match m.scanning with
  | some ⟨now, some (key, _)⟩ =>
      { m with relScanTable := m.relScanTable.erase key, scanning := some ⟨now, none⟩ }
  | _ => m

def scanUnlock (m : TimerManager Client) : TimerManager Client :=
  match m.scanning with
  | some ⟨_, none⟩ => { m with scanning := none }
  | _ => m

def getFlowNumber (m : TimerManager Client) (tid : TimerId) : UInt32 :=
  match m.idToPointer tid with
  | none => 0
  | some block => if block.client.isNone then 0 else block.flowNumber

def validateTimer (m : TimerManager Client) (message : TimerMessage) : Bool :=
  decide (m.getFlowNumber message.tid = message.flow)

end TimerManager

/-- The steps of the timer functions: the reads made without a lock, and what is done
under one. `validate` takes a message out of the clients' queues. -/
inductive TimerCall (Client : Type)
  | pointer (tid : TimerId)
  | timing (tid : TimerId)
  | create (client : Client) (memory : Bool)
  | set (tid : TimerId) (timeout : TimeOut) (now : TimeValue)
  | loop (tid : TimerId)
  | stop (tid : TimerId)
  | remove (tid : TimerId)
  | free (tid : TimerId)
  | scanLock (now : TimeValue)
  | scanNext
  | timeoutHook
  | scanUnlock
  | validate (place : Nat)

@[reducible] def TimerCall.Reply : TimerCall Client → Type
  | pointer _ => Bool
  | timing _ => Bool
  | create _ _ => TimerId
  | set _ _ _ => Status
  | loop _ => Status
  | stop _ => Status
  | remove _ => Status
  | free _ => Unit
  | scanLock _ => Nat
  | scanNext => Bool
  | timeoutHook => Unit
  | scanUnlock => Unit
  | validate _ => Option TimerMessage

abbrev timers (Client : Type) : Signature := ⟨TimerCall Client, TimerCall.Reply⟩

abbrev Timing (Client : Type) := Program (timers Client)

namespace Timers

def perform (c : TimerCall Client) : Timing Client c.Reply := Program.perform (S := timers Client) c

def createTimer (client : Client) (memory : Bool) : Timing Client TimerId :=
  perform (.create client memory)

def setTimer (tid : TimerId) (timeout : TimeOut) (now : TimeValue) : Timing Client Status := do
  if timeout.validate = false then return Status.errorInvalidArgument
  else if ← perform (.pointer tid) then perform (.set tid timeout now)
  else return Status.errorInvalidArgument

def loopTimer (tid : TimerId) : Timing Client Status := do
  if ← perform (.pointer tid) then perform (.loop tid)
  else return Status.errorInvalidArgument

def stopTimer (tid : TimerId) : Timing Client Status := do
  if ← perform (.pointer tid) then perform (.stop tid)
  else return Status.errorInvalidArgument

def killTimer (tid : TimerId) : Timing Client Status := do
  if ← perform (.pointer tid) then
    let removed ← if ← perform (.timing tid) then perform (.remove tid)
      else pure Status.success
    if removed ≠ Status.success then return Status.error
    else
      perform (.free tid)
      return Status.success
  else return Status.errorInvalidArgument

/-- Every turn erases one entry, so there are at most as many turns as entries. -/
def scanLoop : Nat → Timing Client Unit
  | 0 => return ()
  | entries + 1 => do
      if ← perform .scanNext then
        perform .timeoutHook
        scanLoop entries
      else return ()

def scan (now : TimeValue) : Timing Client Unit := do
  let entries ← perform (.scanLock now)
  scanLoop entries
  perform .scanUnlock

/-- What `MessageQueue::Wait` does with a timer message. -/
def deliver (place : Nat) : Timing Client Unit := do
  match ← perform (.validate place) with
  | none => return ()
  | some message =>
      if message.type = TimerType.loop then
        let _ ← loopTimer message.tid
        return ()
      else return ()

inductive Operation (Client : Type)
  | create (client : Client) (memory : Bool)
  | set (tid : TimerId) (timeout : TimeOut) (now : TimeValue)
  | loop (tid : TimerId)
  | stop (tid : TimerId)
  | kill (tid : TimerId)
  | scan (now : TimeValue)
  | deliver (place : Nat)

def program : Operation Client → Timing Client Unit
  | .create client memory => do
      let _ ← createTimer client memory
      return ()
  | .set tid timeout now => do
      let _ ← setTimer tid timeout now
      return ()
  | .loop tid => do
      let _ ← loopTimer tid
      return ()
  | .stop tid => do
      let _ ← stopTimer tid
      return ()
  | .kill tid => do
      let _ ← killTimer tid
      return ()
  | .scan now => scan now
  | .deliver place => deliver place

/-- What each step does to the manager. The queues are no part of it. -/
def answer : (c : TimerCall Client) → TimerManager Client → c.Reply × TimerManager Client
  | .pointer tid, m => ((m.idToPointer tid).any (·.client.isSome), m)
  | .timing tid, m => ((m.idToPointer tid).any (·.timing), m)
  | .create client memory, m => m.createLocked client memory
  | .set tid timeout now, m => m.onTimer tid (TimerManager.setLocked timeout now)
  | .loop tid, m => m.onTimer tid TimerManager.loopLocked
  | .stop tid, m => m.onTimer tid TimerManager.stopLocked
  | .remove tid, m => m.onTimer tid TimerManager.removeTimer
  | .free tid, m => ((), m.freeLocked tid)
  | .scanLock now, m => m.scanLock now
  | .scanNext, m => m.scanNext
  | .timeoutHook, m => ((), m.scanErase)
  | .scanUnlock, m => ((), m.scanUnlock)
  | .validate _, m => (none, m)

end Timers

end Tecs
