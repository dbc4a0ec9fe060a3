import Tecs.Library.Interleaving
import Tecs.Timer.TimerTable

set_option autoImplicit false

namespace Tecs

open Effect

namespace Timers

variable {Client : Type}

/-- A timeout message in the queue of a client. The history variable `arming` tells for
which arming of the timer it was posted. -/
structure Letter (Client : Type) where
  client : Client
  message : TimerMessage
  arming : Nat

/-- The manager and the queues of its clients. The history variables count how often each
timer was stopped, killed or set, and keep that count for its latest arming. -/
structure Mail (Client : Type) where
  manager : TimerManager Client
  queue : List (Letter Client)
  cancelled : TimerId → Nat
  armed : TimerId → Nat

namespace Mail

def cancel (mail : Mail Client) (tid : TimerId) : Mail Client :=
  { mail with cancelled := Function.update mail.cancelled tid (mail.cancelled tid + 1) }

def arm (mail : Mail Client) (tid : TimerId) : Mail Client :=
  { mail.cancel tid with armed := Function.update mail.armed tid (mail.cancelled tid + 1) }

/-- The history after a call. -/
def note (mail : Mail Client) : (c : TimerCall Client) → c.Reply → Mail Client
  | .set tid _ _, reply => if reply = Status.success then mail.arm tid else mail
  | .loop tid, reply => if reply = Status.success then mail.arm tid else mail
  | .stop tid, reply => if reply = Status.success then mail.cancel tid else mail
  | .free tid, _ => mail.cancel tid
  | _, _ => mail

/-- A message for an arming that was stopped, killed or set again since. -/
def Stale (mail : Mail Client) (letter : Letter Client) : Prop :=
  letter.arming < mail.cancelled letter.message.tid

/-- Some queued message of the timer has this flow number. -/
def carries (mail : Mail Client) (tid : TimerId) (flow : UInt32) : Bool :=
  mail.queue.any fun letter => letter.message.tid = tid && letter.message.flow = flow

end Mail

/-- The calls that wait for `rel_scan_table_mutex`. -/
def TimerCall.locks : TimerCall Client → Bool
  | .set _ _ _ => true
  | .loop _ => true
  | .stop _ => true
  | .remove _ => true
  | .scanLock _ => true
  | _ => false

/-- How the calls are answered. The hook of a client that is gone is never reached, and
`DoTimer` may lose the message. -/
def answers (c : TimerCall Client) (mail : Mail Client) (reply : c.Reply) (mail' : Mail Client) :
    Prop :=
  match c, reply with
  | .timeoutHook, _ => ∃ now key tid block client,
      mail.manager.scanning = some ⟨now, some (key, tid)⟩ ∧
      mail.manager.idToPointer tid = some block ∧ block.client = some client ∧
      (mail' = { mail with
          manager := mail.manager.scanErase
          queue := mail.queue ++ [⟨client, block.message tid, mail.armed tid⟩] } ∨
        mail' = { mail with manager := mail.manager.scanErase })
  | .validate place, reply => ∃ letter, mail.queue[place]? = some letter ∧
      reply = (if mail.manager.validateTimer letter.message then some letter.message else none) ∧
      mail' = { mail with queue := mail.queue.eraseIdx place }
  | c, reply => (TimerCall.locks c = true → mail.manager.scanning = none) ∧
      reply = (answer c mail.manager).1 ∧
      mail' = { mail with manager := (answer c mail.manager).2 }.note c reply

def machine (Client Thread : Type) :
    Machine (timers Client) (Mail Client) Unit Thread (Operation Client) where
  program := fun _ operation => program operation
  boot := fun _ => ()
  enter := fun _ _ mail own => (mail, own)
  answers := fun _ c mail _ reply mail' _ => answers c mail reply mail'

abbrev State (Client Thread : Type) := Machine.State (timers Client) (Mail Client) Unit Thread

abbrev Label (Client Thread : Type) := Machine.Label (timers Client) Thread (Operation Client)

def start (Client Thread : Type) : State Client Thread where
  shared := ⟨.started, [], fun _ => 0, fun _ => 0⟩
  own := fun _ => ()
  running := fun _ => none

/-- No queued message of a timer has a flow number the call leaves the timer with, and a
timer that is given back is in the scan table no more. -/
def distinguishes (mail : Mail Client) : TimerCall Client → Bool
  | .set tid _ _ => (mail.manager.idToPointer tid).all fun block =>
      !mail.carries tid (TimerManager.removedFlow block + 1)
  | .loop tid => (mail.manager.idToPointer tid).all fun block =>
      !mail.carries tid (TimerManager.removedFlow block + 1)
  | .stop tid => (mail.manager.idToPointer tid).all fun block =>
      !mail.carries tid (if block.timing then block.flowNumber + 2 else block.flowNumber)
  | .remove tid => (mail.manager.idToPointer tid).all fun block =>
      !block.timing || !mail.carries tid (block.flowNumber + 1)
  | .free tid => (mail.manager.idToPointer tid).all fun block =>
      !mail.carries tid (block.flowNumber + 1) && !mail.carries tid 0 &&
        (entries mail.manager tid).isEmpty
  | _ => true

def Distinguished {Thread : Type} (state : State Client Thread) : Label Client Thread → Prop
  | .call _ c => distinguishes state.shared c = true
  | _ => True

/-! What holds in every state of such a run. -/

open TimerManager

/-- An entry of the scan table is for the latest arming, and a stale message has another
flow number than its timer. -/
structure Clean (mail : Mail Client) : Prop where
  scanned : Scanned mail.manager
  current : ∀ (key : TimeKey) (tid : TimerId), mail.manager.relScanTable[key]? = some tid →
    mail.armed tid = mail.cancelled tid
  known : ∀ letter ∈ mail.queue, ∃ block,
    mail.manager.idToPointer letter.message.tid = some block ∧
      (mail.Stale letter → letter.message.flow ≠ block.flowNumber) ∧
      (block.client = none → letter.message.flow ≠ 0)

theorem Clean.rejects {mail : Mail Client} (clean : Clean mail) {letter : Letter Client}
    (queued : letter ∈ mail.queue) (stale : mail.Stale letter) :
    mail.manager.validateTimer letter.message = false := by
  obtain ⟨block, known, apart, nonzero⟩ := clean.known letter queued
  have differs : mail.manager.getFlowNumber letter.message.tid ≠ letter.message.flow := by
    simp only [getFlowNumber, known]
    cases client : block.client with
    | none => exact fun same => nonzero client same.symm
    | some owner => exact fun same => apart stale same.symm
  simp [validateTimer, differs]

theorem flow_ne_of_carries {mail : Mail Client} {tid : TimerId} {flow : UInt32}
    (none : mail.carries tid flow = false) {letter : Letter Client} (queued : letter ∈ mail.queue)
    (own : letter.message.tid = tid) : letter.message.flow ≠ flow := by
  intro same
  have found : mail.carries tid flow = true :=
    List.any_eq_true.mpr ⟨letter, queued, by simp [own, same]⟩
  rw [none] at found
  cases found

section Steps

variable {mail : Mail Client} {manager : TimerManager Client} {tid : TimerId}
  {stored block : TimerBlock Client}

/-- A timer's block is replaced, and its entries, its history and the queue stay right. -/
theorem Clean.replace (clean : Clean mail) (mail' : Mail Client) (scanned : Scanned mail'.manager)
    (queue : mail'.queue = mail.queue)
    (here : mail'.manager.idToPointer tid = some block)
    (others : ∀ other, other ≠ tid →
      mail'.manager.idToPointer other = mail.manager.idToPointer other ∧
        mail'.cancelled other = mail.cancelled other ∧ mail'.armed other = mail.armed other)
    (entries : ∀ (key : TimeKey) (other : TimerId),
      mail'.manager.relScanTable[key]? = some other →
        (other = tid → mail'.armed tid = mail'.cancelled tid) ∧
          (other ≠ tid → mail.manager.relScanTable[key]? = some other))
    (letters : ∀ letter ∈ mail.queue, letter.message.tid = tid →
      (mail'.Stale letter → letter.message.flow ≠ block.flowNumber) ∧
        (block.client = none → letter.message.flow ≠ 0)) :
    Clean mail' := by
  refine ⟨scanned, ?_, ?_⟩
  · intro key other entry
    obtain ⟨own, foreign⟩ := entries key other entry
    by_cases same : other = tid
    · rw [same]
      exact own same
    · obtain ⟨-, cancelled, armed⟩ := others other same
      rw [cancelled, armed]
      exact clean.current key other (foreign same)
  · intro letter queued
    rw [queue] at queued
    by_cases same : letter.message.tid = tid
    · exact ⟨block, same ▸ here, letters letter queued same⟩
    · obtain ⟨pointer, cancelled, -⟩ := others _ same
      obtain ⟨found, known, apart, nonzero⟩ := clean.known letter queued
      refine ⟨found, pointer.trans known, ?_, nonzero⟩
      intro stale
      rw [Mail.Stale, cancelled] at stale
      exact apart stale

theorem Clean.client_none (clean : Clean mail) (known : mail.manager.idToPointer tid = some stored)
    {letter : Letter Client} (queued : letter ∈ mail.queue) (own : letter.message.tid = tid)
    (gone : stored.client = none) : letter.message.flow ≠ 0 := by
  obtain ⟨found, read, -, nonzero⟩ := clean.known letter queued
  rw [own, known] at read
  cases read
  exact nonzero gone

/-- The timer is armed anew. -/
theorem Clean.armed (clean : Clean mail) (unmarked : mail.manager.marked = none)
    (known : mail.manager.idToPointer tid = some stored)
    (worked : Worked tid block mail.manager manager) (client : block.client = stored.client)
    (distinct : mail.carries tid block.flowNumber = false) :
    Clean (({ mail with manager := manager } : Mail Client).arm tid) := by
  apply clean.replace (({ mail with manager := manager } : Mail Client).arm tid)
    (worked.scanned clean.scanned unmarked) rfl worked.here
  · intro other apart
    exact ⟨worked.others other apart, Function.update_of_ne apart _ _,
      Function.update_of_ne apart _ _⟩
  · intro key other entry
    have table := (worked.table key other).mp entry
    refine ⟨fun _ => ?_, fun apart => by rwa [if_neg apart] at table⟩
    simp [Mail.arm, Mail.cancel]
  · intro letter queued own
    refine ⟨fun _ => flow_ne_of_carries distinct queued own, fun gone => ?_⟩
    exact clean.client_none known queued own (client ▸ gone)

/-- The timer is stopped. -/
theorem Clean.stopped (clean : Clean mail) (unmarked : mail.manager.marked = none)
    (known : mail.manager.idToPointer tid = some stored)
    (worked : Worked tid block mail.manager manager) (idle : block.timing = false)
    (client : block.client = stored.client)
    (distinct : mail.carries tid block.flowNumber = false) :
    Clean (({ mail with manager := manager } : Mail Client).cancel tid) := by
  apply clean.replace (({ mail with manager := manager } : Mail Client).cancel tid)
    (worked.scanned clean.scanned unmarked) rfl worked.here
  · intro other apart
    exact ⟨worked.others other apart, Function.update_of_ne apart _ _, rfl⟩
  · intro key other entry
    have table := (worked.table key other).mp entry
    refine ⟨fun same => ?_, fun apart => by rwa [if_neg apart] at table⟩
    rw [if_pos same, idle] at table
    cases table
  · intro letter queued own
    refine ⟨fun _ => flow_ne_of_carries distinct queued own, fun gone => ?_⟩
    exact clean.client_none known queued own (client ▸ gone)

/-- The timer is removed on its way to be given back. -/
theorem Clean.removed (clean : Clean mail) (unmarked : mail.manager.marked = none)
    (known : mail.manager.idToPointer tid = some stored)
    (worked : Worked tid { stored with timing := false, flowNumber := removedFlow stored }
      mail.manager manager)
    (distinct : stored.timing = true → mail.carries tid (stored.flowNumber + 1) = false) :
    Clean { mail with manager := manager } := by
  apply clean.replace { mail with manager := manager }
    (worked.scanned clean.scanned unmarked) rfl worked.here
  · intro other apart
    exact ⟨worked.others other apart, rfl, rfl⟩
  · intro key other entry
    have table := (worked.table key other).mp entry
    refine ⟨fun same => ?_, fun apart => by rwa [if_neg apart] at table⟩
    rw [if_pos same] at table
    cases table
  · intro letter queued own
    refine ⟨fun stale => ?_, fun gone => clean.client_none known queued own gone⟩
    cases timing : stored.timing with
    | true =>
        have apart := flow_ne_of_carries (distinct timing) queued own
        simpa [removedFlow, timing] using apart
    | false =>
        obtain ⟨found, read, apart, -⟩ := clean.known letter queued
        rw [own, known] at read
        cases read
        simpa [removedFlow, timing] using apart stale

/-- The timer is given back. -/
theorem Clean.freed (clean : Clean mail) (known : mail.manager.idToPointer tid = some stored)
    (next : mail.carries tid (stored.flowNumber + 1) = false)
    (zero : mail.carries tid 0 = false)
    (unlisted : ∀ key : TimeKey, mail.manager.relScanTable[key]? ≠ some tid) :
    Clean (({ mail with manager := mail.manager.freeLocked tid } : Mail Client).cancel tid) := by
  let freed : TimerBlock Client :=
    { stored with client := none, flowNumber := stored.flowNumber + 1 }
  have result : mail.manager.freeLocked tid =
      { mail.manager.put tid freed with freelist := mail.manager.freelist ++ [tid] } := by
    simp only [freeLocked, known]
    rfl
  have kept : Scanned (mail.manager.put tid freed) := clean.scanned.put known freed rfl rfl
  have pointers := idToPointer_put known freed
  rw [result]
  apply clean.replace
    (({ mail with manager := { mail.manager.put tid freed with
      freelist := mail.manager.freelist ++ [tid] } } : Mail Client).cancel tid)
    ⟨kept.entries, kept.expired⟩ rfl ((pointers tid).trans (if_pos rfl))
  · intro other apart
    exact ⟨(pointers other).trans (if_neg apart), Function.update_of_ne apart _ _, rfl⟩
  · intro key other entry
    refine ⟨fun same => ?_, fun _ => entry⟩
    exact absurd (same ▸ entry) (unlisted key)
  · intro letter queued own
    exact ⟨fun _ => flow_ne_of_carries next queued own,
      fun _ => flow_ne_of_carries zero queued own⟩

/-- A step that touches neither the flow numbers nor the entries. -/
theorem Clean.keep (clean : Clean mail) (scanned : Scanned manager)
    (table : ∀ (key : TimeKey) (other : TimerId), manager.relScanTable[key]? = some other →
      mail.manager.relScanTable[key]? = some other)
    (pointers : ∀ other found, mail.manager.idToPointer other = some found →
      ∃ kept, manager.idToPointer other = some kept ∧ kept.flowNumber = found.flowNumber ∧
        (kept.client = none → found.client = none)) :
    Clean { mail with manager := manager } := by
  refine ⟨scanned, fun key other entry => clean.current key other (table key other entry), ?_⟩
  intro letter queued
  obtain ⟨found, known, apart, nonzero⟩ := clean.known letter queued
  obtain ⟨kept, read, flow, client⟩ := pointers _ found known
  exact ⟨kept, read, fun stale => flow ▸ apart stale, fun gone => nonzero (client gone)⟩

theorem Clean.created (clean : Clean mail) (client : Client) (memory : Bool) :
    Clean { mail with manager := (mail.manager.createLocked client memory).2 } := by
  obtain ⟨ready, prepared, outcome⟩ := createLocked_cases mail.manager client memory
  have scanned : Scanned ready := by
    rcases prepared with rfl | rfl
    · exact clean.scanned
    · exact clean.scanned.allocate
  have table : ready.relScanTable = mail.manager.relScanTable := by
    rcases prepared with rfl | rfl <;> rfl
  have older : ∀ other found, mail.manager.idToPointer other = some found →
      ready.idToPointer other = some found := by
    intro other found read
    rcases prepared with rfl | rfl
    · exact read
    · exact idToPointer_allocate_old read
  rcases outcome with result | ⟨tid, rest, list, ⟨absent, result⟩ | ⟨block, known, result⟩⟩
  · rw [result]
    exact clean.keep scanned (fun key other entry => table ▸ entry)
      fun other found read => ⟨found, older other found read, rfl, id⟩
  · rw [result]
    exact clean.keep ⟨scanned.entries, scanned.expired⟩ (fun key other entry => table ▸ entry)
      fun other found read => ⟨found, older other found read, rfl, id⟩
  · rw [result]
    have kept := scanned.put known { block with client := some client } rfl rfl
    have pointers := idToPointer_put known { block with client := some client }
    refine clean.keep ⟨kept.entries, kept.expired⟩ (fun key other entry => table ▸ entry) ?_
    intro other found read
    have there := pointers other
    by_cases same : other = tid
    · rw [if_pos same] at there
      have before := older other found read
      rw [same, known] at before
      cases before
      exact ⟨_, there, rfl, fun gone => by cases gone⟩
    · rw [if_neg same] at there
      exact ⟨found, there.trans (older other found read), rfl, id⟩

/-- The hook of the marked timer posts a message for the latest arming. -/
theorem Clean.posted (clean : Clean mail) {now : TimeValue} {key : TimeKey} {client : Client}
    (running : mail.manager.scanning = some ⟨now, some (key, tid)⟩)
    (known : mail.manager.idToPointer tid = some stored) (owned : stored.client = some client) :
    Clean { mail with
      queue := mail.queue ++ [⟨client, stored.message tid, mail.armed tid⟩] } := by
  refine ⟨clean.scanned, clean.current, ?_⟩
  intro letter queued
  rcases List.mem_append.mp queued with old | new
  · exact clean.known letter old
  · rw [List.mem_singleton] at new
    subst new
    have mark : mail.manager.marked = some (key, tid) := by simp [marked, running]
    obtain ⟨block, read, own, -⟩ := clean.scanned.expired key tid mark
    have entry : mail.manager.relScanTable[key]? = some tid :=
      (clean.scanned.entries key tid).mpr ⟨block, read, own, .inr mark⟩
    refine ⟨stored, known, fun stale => ?_, fun gone => ?_⟩
    · have current := clean.current key tid entry
      exact absurd stale (by simp [Mail.Stale, TimerBlock.message, current])
    · rw [owned] at gone
      cases gone

/-- A timer that does not exist has no messages and no entries. -/
theorem Clean.absent (clean : Clean mail) (none : mail.manager.idToPointer tid = none) :
    Clean (mail.cancel tid) := by
  refine ⟨clean.scanned, ?_, ?_⟩
  · intro key other entry
    have apart : other ≠ tid := by
      rintro rfl
      obtain ⟨found, read, -⟩ := (clean.scanned.entries key other).mp entry
      rw [none] at read
      cases read
    have same : (mail.cancel tid).cancelled other = mail.cancelled other :=
      Function.update_of_ne apart _ _
    rw [same]
    exact clean.current key other entry
  · intro letter queued
    obtain ⟨found, known, apart, nonzero⟩ := clean.known letter queued
    have other : letter.message.tid ≠ tid := by
      rintro rfl
      rw [none] at known
      cases known
    refine ⟨found, known, fun stale => apart ?_, nonzero⟩
    have same : (mail.cancel tid).cancelled letter.message.tid =
        mail.cancelled letter.message.tid := Function.update_of_ne other _ _
    rwa [Mail.Stale, same] at stale

theorem marked_of_quiet {m : TimerManager Client} (quiet : m.scanning = none) :
    m.marked = none := by
  simp [marked, quiet]

theorem onTimer_absent {m : TimerManager Client}
    {f : TimerId → TimerBlock Client → ScanTable → Status × TimerBlock Client × ScanTable}
    (none : m.idToPointer tid = none) : m.onTimer tid f = (.errorInvalidArgument, m) := by
  simp only [onTimer, none]

end Steps

theorem Clean.step {mail mail' : Mail Client} (clean : Clean mail) (c : TimerCall Client)
    (reply : c.Reply) (distinct : distinguishes mail c = true)
    (answered : answers c mail reply mail') : Clean mail' := by
  have failed : Status.errorInvalidArgument ≠ Status.success := by decide
  cases c with
  | pointer tid =>
      obtain ⟨-, -, rfl⟩ := answered
      exact clean
  | timing tid =>
      obtain ⟨-, -, rfl⟩ := answered
      exact clean
  | create client memory =>
      obtain ⟨-, -, rfl⟩ := answered
      exact clean.created client memory
  | set tid timeout now =>
      obtain ⟨quiet, rfl, rfl⟩ := answered
      have unmarked := marked_of_quiet (quiet rfl)
      cases known : mail.manager.idToPointer tid with
      | none =>
          have still := onTimer_absent (f := setLocked timeout now) known
          simpa [Mail.note, answer, still, failed] using clean
      | some stored =>
          obtain ⟨armed, success, worked, -, client, flow⟩ :=
            set_worked clean.scanned unmarked known timeout now
          simp only [distinguishes, known, Option.all_some, Bool.not_eq_true'] at distinct
          simp only [Mail.note, answer, success, if_true]
          exact clean.armed unmarked known worked client (flow ▸ distinct)
  | loop tid =>
      obtain ⟨quiet, rfl, rfl⟩ := answered
      have unmarked := marked_of_quiet (quiet rfl)
      cases known : mail.manager.idToPointer tid with
      | none =>
          have still := onTimer_absent (f := loopLocked) known
          simpa [Mail.note, answer, still, failed] using clean
      | some stored =>
          obtain ⟨armed, success, worked, -, client, flow⟩ :=
            loop_worked clean.scanned unmarked known
          simp only [distinguishes, known, Option.all_some, Bool.not_eq_true'] at distinct
          simp only [Mail.note, answer, success, if_true]
          exact clean.armed unmarked known worked client (flow ▸ distinct)
  | stop tid =>
      obtain ⟨quiet, rfl, rfl⟩ := answered
      have unmarked := marked_of_quiet (quiet rfl)
      cases known : mail.manager.idToPointer tid with
      | none =>
          have still := onTimer_absent (f := stopLocked) known
          simpa [Mail.note, answer, still, failed] using clean
      | some stored =>
          obtain ⟨stopped, success, worked, idle, client, flow⟩ :=
            stop_worked clean.scanned unmarked known
          simp only [distinguishes, known, Option.all_some, Bool.not_eq_true'] at distinct
          simp only [Mail.note, answer, success, if_true]
          exact clean.stopped unmarked known worked idle client (flow ▸ distinct)
  | remove tid =>
      obtain ⟨quiet, rfl, rfl⟩ := answered
      have unmarked := marked_of_quiet (quiet rfl)
      cases known : mail.manager.idToPointer tid with
      | none =>
          have still := onTimer_absent (f := removeTimer) known
          simpa [Mail.note, answer, still] using clean
      | some stored =>
          obtain ⟨-, worked⟩ := remove_worked clean.scanned unmarked known
          simp only [distinguishes, known, Option.all_some, Bool.or_eq_true,
            Bool.not_eq_true'] at distinct
          apply clean.removed unmarked known worked
          intro timing
          simpa [timing] using distinct
  | free tid =>
      obtain ⟨-, -, rfl⟩ := answered
      cases known : mail.manager.idToPointer tid with
      | none =>
          have still : mail.manager.freeLocked tid = mail.manager := by
            simp only [freeLocked, known]
          simpa only [Mail.note, answer, still] using clean.absent known
      | some stored =>
          simp only [distinguishes, known, Option.all_some, Bool.and_eq_true,
            Bool.not_eq_true', List.isEmpty_iff] at distinct
          obtain ⟨⟨next, zero⟩, unlisted⟩ := distinct
          apply clean.freed known next zero
          intro key entry
          have listed : (key, tid) ∈ entries mail.manager tid := mem_entries.mpr ⟨entry, rfl⟩
          rw [unlisted] at listed
          cases listed
  | scanLock now =>
      obtain ⟨quiet, -, rfl⟩ := answered
      have unmarked := marked_of_quiet (quiet rfl)
      have scanned : Scanned (mail.manager.scanLock now).2 := by
        refine ⟨fun key tid => ?_, fun key tid mark => by cases mark⟩
        have before := clean.scanned.entries key tid
        rw [unmarked] at before
        exact before
      exact clean.keep scanned (fun _ _ entry => entry) fun _ found read => ⟨found, read, rfl, id⟩
  | scanNext =>
      obtain ⟨-, -, rfl⟩ := answered
      rcases scanNext_cases mail.manager with
        still | ⟨now, key, tid, block, -, -, known, next⟩
      · simpa [Mail.note, answer, still] using clean
      · have scanned := clean.scanned.scanNext
        have pointers := idToPointer_put known { block with timing := false }
        simp only [Mail.note, answer]
        rw [next] at scanned ⊢
        refine clean.keep scanned (fun _ _ entry => entry) ?_
        intro other found read
        have there := pointers other
        by_cases same : other = tid
        · rw [if_pos same] at there
          rw [same, known] at read
          cases read
          exact ⟨_, there, rfl, id⟩
        · rw [if_neg same] at there
          exact ⟨found, there.trans read, rfl, id⟩
  | timeoutHook =>
      obtain ⟨now, key, tid, block, client, running, known, owned, outcome⟩ := answered
      have erased : mail.manager.scanErase = { mail.manager with
          relScanTable := mail.manager.relScanTable.erase key, scanning := some ⟨now, none⟩ } := by
        simp only [scanErase, running]
      have smaller : ∀ (stamp : TimeKey) (other : TimerId),
          mail.manager.scanErase.relScanTable[stamp]? = some other →
            mail.manager.relScanTable[stamp]? = some other := by
        intro stamp other entry
        rw [erased] at entry
        change (mail.manager.relScanTable.erase key)[stamp]? = some other at entry
        rw [Std.TreeMap.getElem?_erase] at entry
        split at entry
        · cases entry
        · exact entry
      have pointers : ∀ other found, mail.manager.idToPointer other = some found →
          ∃ kept, mail.manager.scanErase.idToPointer other = some kept ∧
            kept.flowNumber = found.flowNumber ∧ (kept.client = none → found.client = none) := by
        intro other found read
        rw [erased]
        exact ⟨found, read, rfl, id⟩
      rcases outcome with rfl | rfl
      · exact (clean.posted running known owned).keep clean.scanned.scanErase smaller pointers
      · exact clean.keep clean.scanned.scanErase smaller pointers
  | scanUnlock =>
      obtain ⟨-, -, rfl⟩ := answered
      have scanned := clean.scanned.scanUnlock
      have same : mail.manager.scanUnlock.pool = mail.manager.pool ∧
          mail.manager.scanUnlock.relScanTable = mail.manager.relScanTable := by
        unfold TimerManager.scanUnlock
        split <;> exact ⟨rfl, rfl⟩
      refine clean.keep scanned (fun _ _ entry => same.2 ▸ entry) fun other found read => ?_
      refine ⟨found, ?_, rfl, id⟩
      rw [← read]
      simp only [answer, idToPointer, same.1]
  | validate place =>
      obtain ⟨letter, -, -, rfl⟩ := answered
      exact ⟨clean.scanned, clean.current, fun other queued =>
        clean.known other (List.mem_of_mem_eraseIdx queued)⟩

theorem clean_start (Client Thread : Type) : Clean (start Client Thread).shared := by
  refine ⟨consistent_started.scanned, ?_, ?_⟩
  · intro key tid entry
    rfl
  · intro letter queued
    cases queued

section Runs

variable {Thread : Type} [DecidableEq Thread]

abbrev Runs (condition : State Client Thread → Label Client Thread → Prop)
    (labels : List (Label Client Thread)) (last : State Client Thread) : Prop :=
  Transition.Run (Transition.Guarded condition (machine Client Thread).Step)
    (start Client Thread) labels last

/-- A message for an arming that was stopped, killed or set again is never accepted, if no
step brings its timer to the flow number of a queued message. -/
theorem stale_timer_rejected {labels : List (Label Client Thread)} {last : State Client Thread}
    (run : Runs Distinguished labels last) {letter : Letter Client}
    (queued : letter ∈ last.shared.queue) (stale : last.shared.Stale letter) :
    last.shared.manager.validateTimer letter.message = false := by
  have clean : Clean last.shared := by
    refine Machine.invariant_run (P := Clean) ?_ ?_ run (clean_start Client Thread)
    · exact fun _ _ _ _ held => held
    · intro state thread c reply mail own distinct clean answered
      exact clean.step c reply distinct answered
  exact clean.rejects queued stale

end Runs

/-! Two runs by evaluation. -/

/-- Every call is answered at once, and no message is lost. -/
def serve (c : TimerCall Client) (mail : Mail Client) : Option (c.Reply × Mail Client) :=
  match c with
  | .timeoutHook =>
      match mail.manager.scanning with
      | some ⟨_, some (_, tid)⟩ =>
          (mail.manager.idToPointer tid).bind fun block => block.client.map fun client =>
            ((), { mail with
              manager := mail.manager.scanErase
              queue := mail.queue ++ [⟨client, block.message tid, mail.armed tid⟩] })
      | _ => none
  | .validate place => mail.queue[place]?.map fun letter =>
      (if mail.manager.validateTimer letter.message then some letter.message else none,
        { mail with queue := mail.queue.eraseIdx place })
  | c =>
      if TimerCall.locks c && mail.manager.scanning.isSome then none
      else
        some ((answer c mail.manager).1,
          { mail with manager := (answer c mail.manager).2 }.note c (answer c mail.manager).1)

theorem served_directly {c : TimerCall Client} {mail : Mail Client}
    {answered : c.Reply × Mail Client}
    (served : (if TimerCall.locks c && mail.manager.scanning.isSome then none
      else
        some ((answer c mail.manager).1,
          { mail with manager := (answer c mail.manager).2 }.note c (answer c mail.manager).1)) =
        some answered) :
    (TimerCall.locks c = true → mail.manager.scanning = none) ∧
      answered.1 = (answer c mail.manager).1 ∧
      answered.2 = { mail with manager := (answer c mail.manager).2 }.note c answered.1 := by
  split at served
  · cases served
  · rename_i unheld
    obtain rfl := Option.some.inj served
    exact ⟨by simpa using unheld, rfl, rfl⟩

theorem serve_sound (c : TimerCall Client) (mail : Mail Client)
    (answered : c.Reply × Mail Client) (served : serve c mail = some answered) :
    answers c mail answered.1 answered.2 := by
  cases c with
  | pointer => exact served_directly served
  | timing => exact served_directly served
  | create => exact served_directly served
  | set => exact served_directly served
  | loop => exact served_directly served
  | stop => exact served_directly served
  | remove => exact served_directly served
  | free => exact served_directly served
  | scanLock => exact served_directly served
  | scanNext => exact served_directly served
  | scanUnlock => exact served_directly served
  | timeoutHook =>
      simp only [serve] at served
      split at served
      · rename_i now key tid running
        obtain ⟨block, known, hooked⟩ := Option.bind_eq_some_iff.mp served
        obtain ⟨client, owned, rfl⟩ := Option.map_eq_some_iff.mp hooked
        exact ⟨now, key, tid, block, client, running, known, owned, .inl rfl⟩
      · cases served
  | validate place =>
      obtain ⟨letter, queued, rfl⟩ := Option.map_eq_some_iff.mp served
      exact ⟨letter, queued, rfl, rfl⟩

instance {Thread : Type} (state : State Client Thread) (label : Label Client Thread) :
    Decidable (Distinguished state label) := by
  unfold Distinguished
  split <;> infer_instance

theorem runs_of_moves {condition : State Unit Bool → Label Unit Bool → Prop}
    [∀ state label, Decidable (condition state label)]
    {choices : List (Machine.Move Bool (Operation Unit))} {check : State Unit Bool → Bool}
    (checked : ((machine Unit Bool).moves
      (fun _ c mail own => (serve c mail).map fun answered => (answered.1, answered.2, own))
      condition (start Unit Bool) choices).any check = true) :
    ∃ labels last, Runs condition labels last ∧ check last = true := by
  obtain ⟨last, moved, holds⟩ := (Option.any_eq_true _ _).mp checked
  have sound : ∀ (thread : Bool) (c : TimerCall Unit) (mail : Mail Unit) (own : Unit)
      (answered : c.Reply × Mail Unit × Unit),
      (serve c mail).map (fun answered => (answered.1, answered.2, own)) = some answered →
        (machine Unit Bool).answers thread c mail own answered.1 answered.2.1 answered.2.2 := by
    intro thread c mail own answered served
    obtain ⟨result, found, rfl⟩ := Option.map_eq_some_iff.mp served
    exact serve_sound c mail result found
  obtain ⟨labels, run⟩ := Machine.run_of_moves sound moved
  exact ⟨labels, last, run, holds⟩

/-- The timer expires, and then its client stops it. -/
def expired (last : Operation Unit) (steps : Nat) : List (Machine.Move Bool (Operation Unit)) :=
  [.start true (.create () true), .advance true, .advance true,
    .start true (.set 1 ⟨TimerType.relative, 0, 7, 0, ""⟩ ⟨0, 0⟩)] ++
    List.replicate 3 (.advance true) ++
    [.start false (.scan ⟨1, 0⟩)] ++ List.replicate 5 (.advance false) ++
    [.start true last] ++ List.replicate steps (.advance true)

/-- Some queued message is stale, and the manager accepts it if told to. -/
def outdated (accepted : Bool) (last : State Unit Bool) : Bool :=
  last.shared.queue.any fun letter =>
    decide (letter.arming < last.shared.cancelled letter.message.tid) &&
      last.shared.manager.validateTimer letter.message == accepted

theorem stale_of_outdated {accepted : Bool} {last : State Unit Bool}
    (found : outdated accepted last = true) : ∃ letter ∈ last.shared.queue,
      last.shared.Stale letter ∧ last.shared.manager.validateTimer letter.message = accepted := by
  obtain ⟨letter, queued, both⟩ := List.any_eq_true.mp found
  obtain ⟨stale, validated⟩ := (Bool.and_eq_true _ _).mp both
  exact ⟨letter, queued, of_decide_eq_true (p := _ < _) stale, beq_iff_eq.mp validated⟩

theorem stale_timer_rejected_reset : ∃ labels last, ∃ letter : Letter Unit,
    Runs (@Distinguished Unit Bool) labels last ∧ letter ∈ last.shared.queue ∧
      last.shared.Stale letter ∧ last.shared.manager.validateTimer letter.message = false := by
  have checked : ((machine Unit Bool).moves
      (fun _ c mail own => (serve c mail).map fun answered => (answered.1, answered.2, own))
      Distinguished (start Unit Bool)
      (expired (.set 1 ⟨TimerType.relative, 0, 7, 0, ""⟩ ⟨1, 0⟩) 3)).any (outdated false) =
        true := by
    decide
  obtain ⟨labels, last, run, found⟩ := runs_of_moves checked
  obtain ⟨letter, queued, stale, -⟩ := stale_of_outdated found
  exact ⟨labels, last, letter, run, queued, stale, stale_timer_rejected run queued stale⟩

/-- A timer that has expired is stopped, and its queued message is accepted all the same. -/
theorem stopped_timer_accepted : ∃ labels last, ∃ letter : Letter Unit,
    Runs (fun (_ : State Unit Bool) _ => True) labels last ∧ letter ∈ last.shared.queue ∧
      last.shared.Stale letter ∧ last.shared.manager.validateTimer letter.message = true := by
  have checked : ((machine Unit Bool).moves
      (fun _ c mail own => (serve c mail).map fun answered => (answered.1, answered.2, own))
      (fun _ _ => True) (start Unit Bool) (expired (.stop 1) 3)).any (outdated true) = true := by
    decide
  obtain ⟨labels, last, run, found⟩ := runs_of_moves checked
  obtain ⟨letter, queued, stale, accepted⟩ := stale_of_outdated found
  exact ⟨labels, last, letter, run, queued, stale, accepted⟩

end Timers

end Tecs
