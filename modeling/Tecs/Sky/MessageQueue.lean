import Tecs.Library.Run
import Tecs.Timer.TimerTable

set_option autoImplicit false

namespace Tecs

open Transition

/-! A thread that waits for messages, its timer, and those who post. -/

section Definitions

def waitForever : UInt32 := 0xFFFFFFFF

def evSkySyncTimer : UInt32 := 1

/-- What `GetFlowNumber` reads of a timer, and whether it is armed. -/
structure FlowTimer where
  flowNumber : UInt32
  timing : Bool
deriving Repr, DecidableEq

/-- `SetTimer` and `LoopTimer`, which remove an armed timer first. -/
def FlowTimer.set (timer : FlowTimer) : FlowTimer :=
  ⟨(if timer.timing then timer.flowNumber + 1 else timer.flowNumber) + 1, true⟩

/-- `StopTimer` does nothing to a timer that is not armed. -/
def FlowTimer.stop (timer : FlowTimer) : FlowTimer :=
  if timer.timing then ⟨timer.flowNumber + 2, false⟩ else timer

/-- A message in the queue: from a sender, from one of the other timers, or from the timer of a
wait; `wait` counts the waits up to the one that had armed it. -/
inductive Frame
  | sent (id : UInt32)
  | timer (message : TimerMessage)
  | sync (flow : UInt32) (wait : ℕ)
deriving DecidableEq

def Frame.id : Frame → UInt32
  | .sent id => id
  | .timer message => message.msgid
  | .sync _ _ => evSkySyncTimer

def Frame.isSync : Frame → Bool
  | .sync _ _ => true
  | _ => false

/-- Where the thread is in `Wait`. -/
inductive WaitPhase
  | idle
  | waiting (timeout : UInt32)
  | taken (timeout : UInt32) (frame : Frame)
  | checked (timeout : UInt32) (frame : Frame)
deriving DecidableEq

/-- What a `Wait` came to; `wait` is its number. -/
structure WaitResult where
  wait : ℕ
  timeout : UInt32
  status : Status
  taken : Option Frame
deriving DecidableEq

/-- The queue and the timers of the process; `waits`, `arrived` and `results` are history. -/
structure MessageQueue where
  waitingFrames : List Frame
  waitTimer : TimerId
  timers : TimerId → FlowTimer
  willBeStopped : Bool
  phase : WaitPhase
  waits : ℕ
  arrived : List Frame
  results : List WaitResult

namespace MessageQueue

variable (q : MessageQueue)

def receive (frame : Frame) : MessageQueue :=
  if q.willBeStopped then q
  else { q with waitingFrames := q.waitingFrames ++ [frame], arrived := q.arrived ++ [frame] }

/-- The timer of the wait is armed. -/
def armed : Bool := q.waitTimer ≠ invalidTimerId && (q.timers q.waitTimer).timing

/-- The scan finds that the time of the timer has come. -/
def expire : MessageQueue :=
  let timer := q.timers q.waitTimer
  { q with
    timers := Function.update q.timers q.waitTimer { timer with timing := false } }.receive
      (.sync timer.flowNumber q.waits)

/-- The thread returns from `Wait`. -/
def leave (timeout : UInt32) (status : Status) (taken : Option Frame) : MessageQueue :=
  { q with phase := .idle, results := q.results ++ [⟨q.waits, timeout, status, taken⟩] }

/-- `Wait` up to the queue; `created` is what `CreateTimer` would return. -/
def start (timeout : UInt32) (created : TimerId) : MessageQueue :=
  let q := { q with waits := q.waits + 1 }
  if q.willBeStopped then q.leave timeout .errorThreadWillExit none
  else if timeout = waitForever then { q with phase := .waiting timeout }
  else
    let waitTimer := if q.waitTimer = invalidTimerId then created else q.waitTimer
    if waitTimer = invalidTimerId then q.leave timeout .errorNoTimer none
    else
      { q with
        waitTimer := waitTimer
        timers := Function.update q.timers waitTimer (q.timers waitTimer).set
        phase := .waiting timeout }

def take : MessageQueue :=
  match q.phase, q.waitingFrames with
  | .waiting timeout, frame :: rest =>
    { q with waitingFrames := rest, phase := .taken timeout frame }
  | _, _ => q

/-- The thread is woken to exit. -/
def wake : MessageQueue :=
  match q.phase with
  | .waiting timeout => q.leave timeout .errorThreadWillExit none
  | _ => q

/-- A timer message is validated against the flow number of its timer. -/
def check : MessageQueue :=
  match q.phase with
  | .taken timeout frame =>
      if q.willBeStopped then q.leave timeout .errorThreadWillExit (some frame)
      else
        match frame with
        | .sent _ => { q with phase := .checked timeout frame }
        | .timer message =>
            if (q.timers message.tid).flowNumber ≠ message.flow then
              q.leave timeout .errorTimerMessageInvalid (some frame)
            else if message.type = TimerType.loop then
              { q with
                timers := Function.update q.timers message.tid (q.timers message.tid).set
                phase := .checked timeout frame }
            else { q with phase := .checked timeout frame }
        | .sync flow _ =>
            if (q.timers q.waitTimer).flowNumber ≠ flow then
              q.leave timeout .errorTimerMessageInvalid (some frame)
            else { q with phase := .checked timeout frame }
  | _ => q

def finish : MessageQueue :=
  match q.phase with
  | .checked timeout frame =>
      if timeout = waitForever then q.leave timeout .success (some frame)
      else if frame.id = evSkySyncTimer then q.leave timeout .errorTimeOut (some frame)
      else
        { q with
          timers := Function.update q.timers q.waitTimer (q.timers q.waitTimer).stop }.leave timeout
            .success (some frame)
  | _ => q

inductive Move
  | receive (frame : Frame)
  | others (tid : TimerId) (timer : FlowTimer)
  | expire
  | stop
  | start (timeout : UInt32) (created : TimerId)
  | take
  | wake
  | check
  | finish

def Possible : Move → Prop
  | .receive frame => frame.isSync = false
  | .others tid _ => tid ≠ q.waitTimer
  | .expire => q.armed = true
  | .stop => True
  | .start _ _ => q.phase = .idle
  | .take => q.waitingFrames ≠ []
  | .wake => q.willBeStopped = true
  | .check => True
  | .finish => True

def next : Move → MessageQueue
  | .receive frame => q.receive frame
  | .others tid timer => { q with timers := Function.update q.timers tid timer }
  | .expire => q.expire
  | .stop => { q with willBeStopped := true }
  | .start timeout created => q.start timeout created
  | .take => q.take
  | .wake => q.wake
  | .check => q.check
  | .finish => q.finish

def Step (before : MessageQueue) (move : Move) (after : MessageQueue) : Prop :=
  before.Possible move ∧ after = before.next move

def empty (timers : TimerId → FlowTimer) : MessageQueue :=
  ⟨[], invalidTimerId, timers, false, .idle, 0, [], []⟩

/-- The message that the thread has taken. -/
def inHand : List Frame :=
  match q.phase with
  | .taken _ frame => [frame]
  | .checked _ frame => [frame]
  | _ => []

end MessageQueue

/-- A wait with a timeout returns a message or a timeout, for which it took nothing but its own
timer's message; and the timer message of another wait is neither returned nor a timeout. -/
structure WaitResult.Right (result : WaitResult) : Prop where
  timed : result.timeout ≠ waitForever →
    (result.status = .success ∧ ∃ frame, result.taken = some frame ∧ frame.isSync = false) ∨
      (result.status = .errorTimeOut ∧ ∃ flow, result.taken = some (.sync flow result.wait))
  own : ∀ flow wait, result.taken = some (.sync flow wait) →
    result.status = .success ∨ result.status = .errorTimeOut → wait = result.wait

/-- Every wait came out right, and the messages are taken in the order of their arrival. -/
structure MessageQueue.Orderly (q : MessageQueue) : Prop where
  right : ∀ result ∈ q.results, result.Right
  order : q.results.filterMap (·.taken) ++ q.inHand ++ q.waitingFrames = q.arrived

namespace MessageQueue

variable (q : MessageQueue)

/-- The message is not from an earlier timer with the id of this one. -/
def foreign : Frame → Bool
  | .timer message => message.tid ≠ q.waitTimer
  | _ => true

/-- The timer that sent the message was neither stopped nor set since. -/
def holdsNumber : Frame → Bool
  | .timer message => (q.timers message.tid).flowNumber = message.flow
  | _ => true

/-- A wait with a timeout takes a message of another sender only while its timer runs, and is done
with it before the timer expires; such a message does not have the id of the timer's messages and
is valid. The thread is not stopped, and gets its timer. -/
def careful : Move → Bool
  | .stop => false
  | .start timeout created =>
      timeout = waitForever || q.waitTimer ≠ invalidTimerId || created ≠ invalidTimerId
  | .take =>
      match q.phase, q.waitingFrames with
      | .waiting timeout, frame :: _ => timeout = waitForever || frame.isSync || q.armed
      | _, _ => true
  | .expire => q.inHand.all (·.isSync)
  | .check =>
      match q.phase with
      | .taken timeout frame =>
          q.foreign frame && (timeout = waitForever || frame.isSync ||
            (frame.id ≠ evSkySyncTimer && q.holdsNumber frame))
      | _ => true
  | _ => true

def Careful (move : Move) : Prop := q.careful move = true

instance (move : Move) : Decidable (q.Careful move) := inferInstanceAs (Decidable (_ = true))

instance : (move : Move) → Decidable (q.Possible move)
  | .receive _ => inferInstanceAs (Decidable (_ = _))
  | .others _ _ => inferInstanceAs (Decidable (_ ≠ _))
  | .expire => inferInstanceAs (Decidable (_ = _))
  | .stop => inferInstanceAs (Decidable True)
  | .start _ _ => inferInstanceAs (Decidable (_ = _))
  | .take => inferInstanceAs (Decidable (_ ≠ _))
  | .wake => inferInstanceAs (Decidable (_ = _))
  | .check => inferInstanceAs (Decidable True)
  | .finish => inferInstanceAs (Decidable True)

end MessageQueue

end Definitions

/-! The timers are those of the manager. -/

section Manager

open TimerManager

variable {Client : Type} {m : TimerManager Client} {tid : TimerId}

def TimerBlock.flowTimer (block : TimerBlock Client) : FlowTimer := ⟨block.flowNumber, block.timing⟩

theorem setLocked_flowTimer {stored : TimerBlock Client}
    (tracked : Tracked tid stored m.relScanTable)
    (keyed : Keyed m.relScanTable) (timeout : TimeOut) (now : TimeValue) :
    (setLocked timeout now tid stored m.relScanTable).2.1.flowTimer = stored.flowTimer.set := by
  have ⟨armed, left, leaves, _, timing, _, flow⟩ := setLocked_spec tracked keyed timeout now
  rw [leaves, TimerBlock.flowTimer, timing, flow]
  rfl

theorem loopLocked_flowTimer {stored : TimerBlock Client}
    (tracked : Tracked tid stored m.relScanTable) (keyed : Keyed m.relScanTable) :
    (loopLocked tid stored m.relScanTable).2.1.flowTimer = stored.flowTimer.set := by
  have ⟨armed, left, leaves, _, timing, _, flow⟩ := loopLocked_spec tracked keyed
  rw [leaves, TimerBlock.flowTimer, timing, flow]
  rfl

theorem stopLocked_flowTimer {stored : TimerBlock Client}
    (tracked : Tracked tid stored m.relScanTable) :
    (stopLocked tid stored m.relScanTable).2.1.flowTimer = stored.flowTimer.stop := by
  have ⟨stopped, left, leaves, _, idle, _, flow⟩ := stopLocked_spec tracked
  rw [leaves, TimerBlock.flowTimer, idle, flow, FlowTimer.stop, TimerBlock.flowTimer]
  cases stored.timing <;> simp

/-- A scan posts the flow number that the timer has, and leaves it. -/
theorem scanNext_flowTimer (next : m.scanNext.1 = true) :
    ∃ tid block, m.idToPointer tid = some block ∧
      (m.scanNext.2.idToPointer tid).map TimerBlock.flowTimer =
        some { block.flowTimer with timing := false } ∧
      (block.message tid).flow = block.flowTimer.flowNumber := by
  rcases scanNext_cases m with still | ⟨now, key, tid, block, _, _, known, moved⟩
  · rw [still] at next
    cases next
  · refine ⟨tid, block, known, ?_, rfl⟩
    have read := idToPointer_put known { block with timing := false } tid
    rw [if_pos rfl] at read
    rw [moved]
    exact congrArg (Option.map TimerBlock.flowTimer) read

end Manager

namespace MessageQueue

section Invariant

variable {q : MessageQueue}

/-- No message of the timer is in the queue. -/
def NoSync (q : MessageQueue) : Prop := ∀ frame ∈ q.waitingFrames, frame.isSync = false

/-- The timer is not armed, and nothing is left of it. -/
def Quiet (q : MessageQueue) : Prop := q.armed = false ∧ q.NoSync

/-- The timer runs. -/
def Counting (q : MessageQueue) : Prop := q.armed = true ∧ q.NoSync

/-- The timer has expired for this wait, and its message is in the queue. -/
def Expired (q : MessageQueue) : Prop :=
  q.armed = false ∧ ∃ before rest,
    q.waitingFrames =
      before ++ .sync (q.timers q.waitTimer).flowNumber q.waits :: rest ∧
    (∀ frame ∈ before, frame.isSync = false) ∧ ∀ frame ∈ rest, frame.isSync = false

/-- The timer of a wait and the message it has taken. -/
def Holding (q : MessageQueue) (timeout : UInt32) (frame : Frame) : Prop :=
  (timeout = waitForever ∧ frame.isSync = false ∧ q.Quiet) ∨
    (timeout ≠ waitForever ∧ frame.isSync = false ∧ q.Counting) ∨
    (timeout ≠ waitForever ∧ frame = .sync (q.timers q.waitTimer).flowNumber q.waits ∧ q.Quiet)

def Situated (q : MessageQueue) : Prop :=
  match q.phase with
  | .idle => q.Quiet
  | .waiting timeout =>
      (timeout = waitForever ∧ q.Quiet) ∨ (timeout ≠ waitForever ∧ (q.Counting ∨ q.Expired))
  | .taken timeout frame => q.Holding timeout frame
  | .checked timeout frame => q.Holding timeout frame ∧
      (timeout ≠ waitForever → frame.isSync = false → frame.id ≠ evSkySyncTimer)

/-- What every careful step keeps. -/
structure Kept (q : MessageQueue) : Prop extends q.Orderly where
  going : q.willBeStopped = false
  situated : q.Situated

theorem empty_kept (timers : TimerId → FlowTimer) : (empty timers).Kept := by
  refine ⟨⟨?_, rfl⟩, rfl, rfl, ?_⟩
  · intro result member
    exact absurd member List.not_mem_nil
  · intro frame member
    exact absurd member List.not_mem_nil

/-! What stays when the timers or the queue change. -/

theorem armed_congr {q' : MessageQueue} (waitTimer : q'.waitTimer = q.waitTimer)
    (timer : q'.timers q.waitTimer = q.timers q.waitTimer) : q'.armed = q.armed := by
  rw [armed, armed, waitTimer, timer]

theorem quiet_congr {q' : MessageQueue} (waitTimer : q'.waitTimer = q.waitTimer)
    (timer : q'.timers q.waitTimer = q.timers q.waitTimer)
    (frames : q'.waitingFrames = q.waitingFrames) : q'.Quiet ↔ q.Quiet := by
  rw [Quiet, Quiet, NoSync, NoSync, armed_congr waitTimer timer, frames]

theorem counting_congr {q' : MessageQueue} (waitTimer : q'.waitTimer = q.waitTimer)
    (timer : q'.timers q.waitTimer = q.timers q.waitTimer)
    (frames : q'.waitingFrames = q.waitingFrames) : q'.Counting ↔ q.Counting := by
  rw [Counting, Counting, NoSync, NoSync, armed_congr waitTimer timer, frames]

theorem expired_congr {q' : MessageQueue} (waitTimer : q'.waitTimer = q.waitTimer)
    (timer : q'.timers q.waitTimer = q.timers q.waitTimer)
    (frames : q'.waitingFrames = q.waitingFrames) (waits : q'.waits = q.waits) :
    q'.Expired ↔ q.Expired := by
  rw [Expired, Expired, armed_congr waitTimer timer, frames, waitTimer, timer, waits]

theorem holding_congr {q' : MessageQueue} (waitTimer : q'.waitTimer = q.waitTimer)
    (timer : q'.timers q.waitTimer = q.timers q.waitTimer)
    (frames : q'.waitingFrames = q.waitingFrames) (waits : q'.waits = q.waits)
    (timeout : UInt32) (frame : Frame) : q'.Holding timeout frame ↔ q.Holding timeout frame := by
  rw [Holding, Holding, quiet_congr waitTimer timer frames, counting_congr waitTimer timer frames,
    waitTimer, timer, waits]

theorem situated_congr {q' : MessageQueue} (waitTimer : q'.waitTimer = q.waitTimer)
    (timer : q'.timers q.waitTimer = q.timers q.waitTimer)
    (frames : q'.waitingFrames = q.waitingFrames) (waits : q'.waits = q.waits)
    (phase : q'.phase = q.phase) : q'.Situated ↔ q.Situated := by
  rw [Situated, Situated, phase]
  cases q.phase with
  | idle => exact quiet_congr waitTimer timer frames
  | waiting timeout =>
      simp only [quiet_congr waitTimer timer frames, counting_congr waitTimer timer frames,
        expired_congr waitTimer timer frames waits]
  | taken timeout frame => exact holding_congr waitTimer timer frames waits timeout frame
  | checked timeout frame =>
      simp only [holding_congr waitTimer timer frames waits timeout frame]

end Invariant

section Steps

variable {q : MessageQueue}

/-- A message of somebody else is put behind the others. -/
theorem situated_push (situated : q.Situated) {frame : Frame} (plain : frame.isSync = false)
    {q' : MessageQueue} (frames : q'.waitingFrames = q.waitingFrames ++ [frame])
    (waitTimer : q'.waitTimer = q.waitTimer) (timers : q'.timers = q.timers)
    (waits : q'.waits = q.waits) (phase : q'.phase = q.phase) : q'.Situated := by
  have timer : q'.timers q.waitTimer = q.timers q.waitTimer := by rw [timers]
  have still := armed_congr waitTimer timer
  have noSync (none : q.NoSync) : q'.NoSync := by
    intro other member
    rw [frames, List.mem_append, List.mem_singleton] at member
    rcases member with before | rfl
    · exact none other before
    · exact plain
  have quiet (holds : q.Quiet) : q'.Quiet := ⟨still.trans holds.1, noSync holds.2⟩
  have counting (holds : q.Counting) : q'.Counting := ⟨still.trans holds.1, noSync holds.2⟩
  have expired (holds : q.Expired) : q'.Expired := by
    have ⟨idle, before, rest, queue, first, last⟩ := holds
    refine ⟨still.trans idle, before, rest ++ [frame], ?_, first, ?_⟩
    · rw [frames, queue, waitTimer, timer, waits, List.append_assoc, List.cons_append]
    · intro other member
      rw [List.mem_append, List.mem_singleton] at member
      rcases member with inside | rfl
      · exact last other inside
      · exact plain
  have holding (timeout : UInt32) (held : Frame) (holds : q.Holding timeout held) :
      q'.Holding timeout held := by
    rcases holds with ⟨forever, own, rest⟩ | ⟨timed, own, runs⟩ | ⟨timed, own, rest⟩
    · exact .inl ⟨forever, own, quiet rest⟩
    · exact .inr (.inl ⟨timed, own, counting runs⟩)
    · rw [← timer, ← waitTimer, ← waits] at own
      exact .inr (.inr ⟨timed, own, quiet rest⟩)
  rw [Situated, phase]
  rw [Situated] at situated
  cases at_ : q.phase with
  | idle =>
      rw [at_] at situated
      exact quiet situated
  | waiting timeout =>
      rw [at_] at situated
      rcases situated with ⟨forever, rest⟩ | ⟨timed, runs | due⟩
      · exact .inl ⟨forever, quiet rest⟩
      · exact .inr ⟨timed, .inl (counting runs)⟩
      · exact .inr ⟨timed, .inr (expired due)⟩
  | taken timeout held =>
      rw [at_] at situated
      exact holding timeout held situated
  | checked timeout held =>
      rw [at_] at situated
      exact ⟨holding timeout held situated.1, situated.2⟩

theorem receive_kept (kept : q.Kept) {frame : Frame} (plain : frame.isSync = false) :
    (q.receive frame).Kept := by
  rw [receive, if_neg (ne_true_of_eq_false kept.going)]
  refine ⟨⟨kept.right, ?_⟩, kept.going, situated_push kept.situated plain rfl rfl rfl rfl rfl⟩
  show q.results.filterMap (·.taken) ++ q.inHand ++ (q.waitingFrames ++ [frame]) =
    q.arrived ++ [frame]
  rw [← List.append_assoc, kept.order]

theorem others_kept (kept : q.Kept) {tid : TimerId} (other : tid ≠ q.waitTimer)
    (timer : FlowTimer) : { q with timers := Function.update q.timers tid timer }.Kept := by
  refine ⟨⟨kept.right, kept.order⟩, kept.going, ?_⟩
  have timer' : Function.update q.timers tid timer q.waitTimer = q.timers q.waitTimer :=
    Function.update_of_ne other.symm _ _
  have same : ({ q with timers := Function.update q.timers tid timer } : MessageQueue).Situated ↔
      q.Situated := situated_congr rfl timer' rfl rfl rfl
  exact same.mpr kept.situated

theorem armed_waitTimer (armed : q.armed = true) :
    q.waitTimer ≠ invalidTimerId ∧ (q.timers q.waitTimer).timing = true := by
  rw [MessageQueue.armed, Bool.and_eq_true, decide_eq_true_eq] at armed
  exact armed

/-- Only a wait that goes on has a timer that can expire. -/
theorem counting_of_armed (kept : q.Kept) (armed : q.armed = true)
    (careful : q.Careful .expire) :
    ∃ timeout, q.phase = .waiting timeout ∧ timeout ≠ waitForever ∧ q.Counting := by
  have situated := kept.situated
  rw [Situated] at situated
  have unarmed (idle : q.armed = false) : False := by
    rw [armed] at idle
    cases idle
  have held (timeout : UInt32) (frame : Frame) (member : frame ∈ q.inHand)
      (holding : q.Holding timeout frame) : False := by
    rcases holding with ⟨_, _, rest⟩ | ⟨_, own, _⟩ | ⟨_, _, rest⟩
    · exact unarmed rest.1
    · have sync := List.all_eq_true.mp careful frame member
      rw [own] at sync
      cases sync
    · exact unarmed rest.1
  cases at_ : q.phase with
  | idle =>
      rw [at_] at situated
      exact (unarmed situated.1).elim
  | waiting timeout =>
      rw [at_] at situated
      rcases situated with ⟨_, rest⟩ | ⟨timed, runs | due⟩
      · exact (unarmed rest.1).elim
      · exact ⟨timeout, rfl, timed, runs⟩
      · exact (unarmed due.1).elim
  | taken timeout frame =>
      rw [at_] at situated
      have member : frame ∈ q.inHand := by
        rw [inHand, at_]
        exact List.mem_singleton.mpr rfl
      exact (held timeout frame member situated).elim
  | checked timeout frame =>
      rw [at_] at situated
      have member : frame ∈ q.inHand := by
        rw [inHand, at_]
        exact List.mem_singleton.mpr rfl
      exact (held timeout frame member situated.1).elim

theorem expire_kept (kept : q.Kept) (armed : q.armed = true) (careful : q.Careful .expire) :
    q.expire.Kept := by
  have ⟨timeout, at_, timed, runs⟩ := counting_of_armed kept armed careful
  have expires : q.expire = { q with
      timers := Function.update q.timers q.waitTimer
        { q.timers q.waitTimer with timing := false }
      waitingFrames := q.waitingFrames ++ [.sync (q.timers q.waitTimer).flowNumber q.waits]
      arrived := q.arrived ++ [.sync (q.timers q.waitTimer).flowNumber q.waits] } := by
    rw [expire, receive]
    exact if_neg (ne_true_of_eq_false kept.going)
  rw [expires]
  refine ⟨⟨kept.right, ?_⟩, kept.going, ?_⟩
  · show q.results.filterMap (·.taken) ++ q.inHand ++ (q.waitingFrames ++ [_]) = q.arrived ++ [_]
    rw [← List.append_assoc, kept.order]
  · rw [Situated, at_]
    refine .inr ⟨timed, .inr ⟨?_, q.waitingFrames, [], ?_, runs.2, ?_⟩⟩
    · simp only [MessageQueue.armed, Function.update_self, Bool.and_false]
    · simp only [Function.update_self]
    · intro frame member
      exact absurd member List.not_mem_nil

/-- The thread returns what it has in hand, and nothing is left of its timer. -/
theorem leave_kept (orderly : q.Orderly) (going : q.willBeStopped = false) (quiet : q.Quiet)
    {timeout : UInt32} {status : Status} {frame : Frame} (hand : q.inHand = [frame])
    (right : WaitResult.Right ⟨q.waits, timeout, status, some frame⟩) :
    (q.leave timeout status (some frame)).Kept := by
  refine ⟨⟨?_, ?_⟩, going, quiet⟩
  · intro result member
    rcases List.mem_append.mp member with before | last
    · exact orderly.right result before
    · rw [List.mem_singleton.mp last]
      exact right
  · have order := orderly.order
    rw [hand] at order
    let result : WaitResult := ⟨q.waits, timeout, status, some frame⟩
    show (q.results ++ [result]).filterMap (·.taken) ++ [] ++ q.waitingFrames = q.arrived
    rw [List.filterMap_append, List.append_nil]
    exact order

theorem start_kept (kept : q.Kept) {timeout : UInt32} {created : TimerId} (idle : q.phase = .idle)
    (careful : q.Careful (.start timeout created)) : (q.start timeout created).Kept := by
  have situated := kept.situated
  rw [Situated, idle] at situated
  have order := kept.order
  have empty : q.inHand = [] := by rw [inHand, idle]
  rw [empty] at order
  simp only [start]
  rw [if_neg (ne_true_of_eq_false kept.going)]
  by_cases forever : timeout = waitForever
  · rw [if_pos forever]
    exact ⟨⟨kept.right, order⟩, kept.going, .inl ⟨forever, situated⟩⟩
  · rw [if_neg forever]
    have valid : (if q.waitTimer = invalidTimerId then created else q.waitTimer) ≠
        invalidTimerId := by
      split
      case isTrue new =>
        rw [Careful, MessageQueue.careful, decide_eq_false forever, new] at careful
        simpa using careful
      case isFalse old => exact old
    rw [if_neg valid]
    refine ⟨⟨kept.right, order⟩, kept.going, .inr ⟨forever, .inl ⟨?_, situated.2⟩⟩⟩
    simp only [armed, Function.update_self, FlowTimer.set, Bool.and_true, decide_eq_true_eq]
    exact valid

theorem take_kept (kept : q.Kept) (careful : q.Careful .take) : q.take.Kept := by
  have situated := kept.situated
  have order := kept.order
  cases at_ : q.phase with
  | waiting timeout =>
      cases frames : q.waitingFrames with
      | nil =>
          have takes : q.take = q := by simp only [take, at_, frames]
          rw [takes]
          exact kept
      | cons frame rest =>
          have takes : q.take =
              { q with waitingFrames := rest, phase := .taken timeout frame } := by
            simp only [take, at_, frames]
          rw [takes]
          rw [inHand, at_, frames, List.append_nil] at order
          refine ⟨⟨kept.right, ?_⟩, kept.going, ?_⟩
          · show q.results.filterMap (·.taken) ++ [frame] ++ rest = q.arrived
            rw [List.append_assoc]
            exact order
          · rw [Situated, at_] at situated
            have plain (none : q.NoSync) : frame.isSync = false ∧
                ∀ other ∈ rest, other.isSync = false := by
              rw [NoSync, frames] at none
              exact ⟨none frame List.mem_cons_self,
                fun other member => none other (List.mem_cons_of_mem _ member)⟩
            rcases situated with ⟨forever, idle, none⟩ | ⟨timed, runs | due⟩
            · have ⟨own, others⟩ := plain none
              exact .inl ⟨forever, own, idle, others⟩
            · have ⟨own, others⟩ := plain runs.2
              exact .inr (.inl ⟨timed, own, runs.1, others⟩)
            · have ⟨idle, before, last, queue, first, others⟩ := due
              cases before with
              | nil =>
                  rw [frames, List.nil_append, List.cons.injEq] at queue
                  refine .inr (.inr ⟨timed, queue.1, idle, ?_⟩)
                  show ∀ other ∈ rest, other.isSync = false
                  rw [queue.2]
                  exact others
              | cons head tail =>
                  rw [frames, List.cons_append, List.cons.injEq] at queue
                  have own : frame.isSync = false := by
                    rw [queue.1]
                    exact first head List.mem_cons_self
                  rw [Careful, MessageQueue.careful, at_, frames] at careful
                  simp only [own, idle, decide_eq_false timed, Bool.or_false] at careful
                  cases careful
  | idle | taken | checked =>
      have takes : q.take = q := by simp only [take, at_]
      rw [takes]
      exact kept

/-- The message in hand has passed. -/
theorem checked_kept (kept : q.Kept) {timeout : UInt32} {frame : Frame}
    (at_ : q.phase = .taken timeout frame)
    (other : timeout ≠ waitForever → frame.isSync = false → frame.id ≠ evSkySyncTimer)
    {timers : TimerId → FlowTimer} (timer : timers q.waitTimer = q.timers q.waitTimer) :
    { q with timers := timers, phase := .checked timeout frame }.Kept := by
  have situated := kept.situated
  have order := kept.order
  rw [Situated, at_] at situated
  rw [inHand, at_] at order
  have same : ({ q with timers := timers, phase := .checked timeout frame } :
      MessageQueue).Holding timeout frame ↔ q.Holding timeout frame := by
    apply holding_congr
    · rfl
    · exact timer
    · rfl
    · rfl
  exact ⟨⟨kept.right, order⟩, kept.going, same.mpr situated, other⟩

theorem careful_check (careful : q.Careful .check) {timeout : UInt32} {frame : Frame}
    (at_ : q.phase = .taken timeout frame) :
    q.foreign frame = true ∧ (timeout ≠ waitForever → frame.isSync = false →
      frame.id ≠ evSkySyncTimer ∧ q.holdsNumber frame = true) := by
  rw [Careful, MessageQueue.careful, at_] at careful
  have ⟨own, other⟩ := (Bool.and_eq_true _ _).mp careful
  refine ⟨own, fun timed plain => ?_⟩
  rw [decide_eq_false timed, plain, Bool.false_or, Bool.false_or, Bool.and_eq_true,
    decide_eq_true_eq] at other
  exact other

theorem check_kept (kept : q.Kept) (careful : q.Careful .check) : q.check.Kept := by
  have situated := kept.situated
  cases at_ : q.phase with
  | taken timeout frame =>
      have ⟨own, plain⟩ := careful_check careful at_
      rw [Situated, at_] at situated
      simp only [check, at_]
      rw [if_neg (ne_true_of_eq_false kept.going)]
      cases frame with
      | sent id =>
          have other (timed : timeout ≠ waitForever) (_ : (Frame.sent id).isSync = false) :
              (Frame.sent id).id ≠ evSkySyncTimer := (plain timed rfl).1
          exact checked_kept kept at_ other rfl
      | timer message =>
          have other (timed : timeout ≠ waitForever) (_ : (Frame.timer message).isSync = false) :
              (Frame.timer message).id ≠ evSkySyncTimer := (plain timed rfl).1
          dsimp only
          split
          case isTrue invalid =>
            have forever : timeout = waitForever := by
              by_contra timed
              exact invalid (of_decide_eq_true (plain timed rfl).2)
            have quiet : q.Quiet := by
              rcases situated with ⟨_, _, rest⟩ | ⟨timed, _⟩ | ⟨timed, _⟩
              · exact rest
              · exact absurd forever timed
              · exact absurd forever timed
            apply leave_kept kept.toOrderly kept.going quiet
            · rw [inHand, at_]
            · refine ⟨fun timed => absurd forever timed, ?_⟩
              intro flow wait same
              cases same
          case isFalse =>
            split
            case isTrue =>
              have timer : Function.update q.timers message.tid (q.timers message.tid).set
                  q.waitTimer = q.timers q.waitTimer :=
                Function.update_of_ne (of_decide_eq_true own).symm _ _
              exact checked_kept kept at_ other timer
            case isFalse => exact checked_kept kept at_ other rfl
      | sync flow wait =>
          have current : (q.timers q.waitTimer).flowNumber = flow := by
            rcases situated with ⟨_, own, _⟩ | ⟨_, own, _⟩ | ⟨_, same, _⟩
            · cases own
            · cases own
            · cases same
              rfl
          dsimp only
          rw [if_neg (not_not_intro current)]
          exact checked_kept kept at_ (fun _ sync => Bool.noConfusion sync) rfl
  | idle | waiting | checked =>
      have checks : q.check = q := by simp only [check, at_]
      rw [checks]
      exact kept

/-- A wait with a timeout stops its timer, and one without has none. -/
theorem finish_kept (kept : q.Kept) : q.finish.Kept := by
  have situated := kept.situated
  cases at_ : q.phase with
  | checked timeout frame =>
      rw [Situated, at_] at situated
      have hand : q.inHand = [frame] := by rw [inHand, at_]
      have ⟨holding, other⟩ := situated
      simp only [finish, at_]
      rcases holding with ⟨forever, own, quiet⟩ | ⟨timed, own, runs⟩ | ⟨timed, same, quiet⟩
      · rw [if_pos forever]
        apply leave_kept kept.toOrderly kept.going quiet hand
        refine ⟨fun timed => absurd forever timed, ?_⟩
        intro flow wait taken
        rw [Option.some.inj taken] at own
        cases own
      · rw [if_neg timed, if_neg (other timed own)]
        have ⟨valid, timing⟩ := armed_waitTimer runs.1
        have order := kept.order
        rw [hand] at order
        apply leave_kept
        · exact ⟨kept.right, order⟩
        · exact kept.going
        · refine ⟨?_, runs.2⟩
          simp only [armed, Function.update_self, FlowTimer.stop, timing, if_true, Bool.and_false]
        · rfl
        · refine ⟨fun _ => .inl ⟨rfl, frame, rfl, own⟩, ?_⟩
          intro flow wait taken
          rw [Option.some.inj taken] at own
          cases own
      · rw [same] at hand ⊢
        have id : (Frame.sync (q.timers q.waitTimer).flowNumber q.waits).id = evSkySyncTimer := rfl
        rw [if_neg timed, if_pos id]
        apply leave_kept kept.toOrderly kept.going quiet hand
        refine ⟨fun _ => .inr ⟨rfl, _, rfl⟩, ?_⟩
        intro flow wait taken _
        cases taken
        rfl
  | idle | waiting | taken =>
      have finishes : q.finish = q := by simp only [finish, at_]
      rw [finishes]
      exact kept

theorem next_kept (kept : q.Kept) {move : Move} (possible : q.Possible move)
    (careful : q.Careful move) : (q.next move).Kept := by
  cases move with
  | receive frame => exact receive_kept kept possible
  | others tid timer => exact others_kept kept possible timer
  | expire => exact expire_kept kept possible careful
  | stop => exact Bool.noConfusion careful
  | start timeout created => exact start_kept kept possible careful
  | take => exact take_kept kept careful
  | wake =>
      have stopped : q.willBeStopped = true := possible
      rw [kept.going] at stopped
      cases stopped
  | check => exact check_kept kept careful
  | finish => exact finish_kept kept

/-- In a careful run every wait comes out right and takes the messages in order. -/
theorem careful_orderly {timers : TimerId → FlowTimer} {moves : List Move} {last : MessageQueue}
    (run : Run (Guarded Careful Step) (empty timers) moves last) : last.Orderly := by
  have kept : last.Kept := by
    apply Run.invariant (empty_kept timers) _ run
    intro before move after kept ⟨careful, possible, result⟩
    rw [result]
    exact next_kept kept possible careful
  exact kept.toOrderly

end Steps

section Runs

/-- The timers before anything was set. -/
def unset : TimerId → FlowTimer := fun _ => ⟨0, false⟩

/-- A wait that times out, and one that takes a message. -/
def timesOut : List Move :=
  [.start 3000 1, .expire, .take, .check, .finish, .receive (.sent 7), .start 3000 1, .take, .check,
    .finish]

theorem timesOut_orderly : (timesOut.foldl next (empty unset)).Orderly := by
  have replays : Replays (Guarded Careful Step) next (empty unset) timesOut :=
    ⟨⟨by decide, by decide, rfl⟩, ⟨by decide, by decide, rfl⟩, ⟨by decide, by decide, rfl⟩,
      ⟨by decide, trivial, rfl⟩, ⟨by decide, trivial, rfl⟩, ⟨by decide, by decide, rfl⟩,
      ⟨by decide, by decide, rfl⟩, ⟨by decide, by decide, rfl⟩, ⟨by decide, trivial, rfl⟩,
      ⟨by decide, trivial, rfl⟩, trivial⟩
  exact careful_orderly (Run.replay replays)

/-- The timer expires behind a message that has arrived, and a later wait returns what it left. -/
def expiresBehind : List Move :=
  [.start 3000 1, .receive (.sent 7), .expire, .take, .check, .finish, .start waitForever 1, .take,
    .check, .finish]

theorem leftover_returned :
    ∃ last, Run Step (empty unset) expiresBehind last ∧ ¬ last.Orderly := by
  have replays : Replays Step next (empty unset) expiresBehind :=
    ⟨⟨rfl, rfl⟩, ⟨rfl, rfl⟩, ⟨by decide, rfl⟩, ⟨by decide, rfl⟩, ⟨trivial, rfl⟩, ⟨trivial, rfl⟩,
      ⟨by decide, rfl⟩, ⟨by decide, rfl⟩, ⟨trivial, rfl⟩, ⟨trivial, rfl⟩, trivial⟩
  refine ⟨_, Run.replay replays, ?_⟩
  intro orderly
  have member : (⟨2, waitForever, .success, some (.sync 1 1)⟩ : WaitResult) ∈
      (expiresBehind.foldl next (empty unset)).results := by decide
  have own := (orderly.right _ member).own 1 1 rfl (.inl rfl)
  cases own

end Runs

end MessageQueue

end Tecs
