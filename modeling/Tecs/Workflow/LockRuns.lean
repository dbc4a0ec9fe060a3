import Tecs.Workflow.EngineRuns
import Tecs.Workflow.LockOutline

set_option autoImplicit false

namespace Tecs

open Effect

namespace WorkflowLock

variable {Thread : Type}

abbrev State (Thread : Type) := Machine.State locking (Office Thread) Caller Thread

abbrev Label (Thread : Type) := Machine.Label locking Thread Operation

/-- No thread has locked the workflow. -/
def Free (own : Thread → Caller) (workflowId : String) : Prop :=
  ∀ thread, workflowId ∉ (own thread).held

/-- The request is queued or being handled. -/
def Pending (state : State Thread) (request : Request) : Prop :=
  request ∈ state.shared.queue ∨ ∃ engine, (state.own engine).handling = some request

/-- No waiter gives up before its request is answered, and the rollback workflow that an
engine reads in order to delete it is not locked. -/
def Undisturbed (state : State Thread) : Label Thread → Prop
  | .call thread (.wait _) => ∀ request ∈ (state.own thread).sent, ¬Pending state request
  | .call thread (.pool (.select (.rollbackWorkflow id))) => (state.own thread).deletes = true →
      ∀ found ∈ (state.shared.tables.workflowById id).map WorkflowRow.rollbackWorkflowId,
        found ≠ "" → Free state.own found
  | .crash _ => False
  | _ => True

/-- What holds in every state of such a run. -/
structure Orderly (state : State Thread) : Prop where
  owner : ∀ thread, 0 < (state.own thread).depth → state.shared.mutex = some thread
  held : ∀ thread id, id ∈ (state.own thread).held ↔ state.shared.locks.Holds thread id
  unlocked : ∀ thread id, (state.own thread).unlocked = some id →
    0 < (state.own thread).depth ∧ Free state.own id
  pending : ∀ request, Pending state request → ∃ thread, 0 < (state.own thread).depth ∧
    (state.own thread).sent = some request ∧ Free state.own request.workflowId
  rollback : ∀ engine, ∀ id ∈ (state.own engine).rollbacks, id ≠ "" →
    (∃ request, (state.own engine).handling = some request) → Free state.own id

theorem Orderly.same_owner {state : State Thread} (orderly : Orderly state) {thread other : Thread}
    (here : 0 < (state.own thread).depth) (there : 0 < (state.own other).depth) :
    other = thread :=
  Option.some.inj ((orderly.owner other there).symm.trans (orderly.owner thread here))

/-- Nothing is pending while the thread in the mutex waits for nothing. -/
theorem Orderly.quiet {state : State Thread} (orderly : Orderly state) {thread : Thread}
    (inside : 0 < (state.own thread).depth) (sent : (state.own thread).sent = none)
    (request : Request) : ¬Pending state request := by
  intro pending
  obtain ⟨other, there, waits, -⟩ := orderly.pending request pending
  rw [orderly.same_owner inside there, sent] at waits
  cases waits

theorem start_orderly (tables : Database) : Orderly (start Thread tables) where
  owner := fun _ inside => absurd inside (Nat.lt_irrefl 0)
  held := by
    intro thread id
    simp [start, Caller.boot, WorkflowLocks.Holds, WorkflowLocks.empty]
  unlocked := fun _ _ => nofun
  pending := by
    rintro request (queued | ⟨engine, handles⟩)
    · cases queued
    · cases handles
  rollback := fun _ _ none => absurd none List.not_mem_nil

section Steps

variable [DecidableEq Thread] {state : State Thread} {thread : Thread} {own : Caller}
  {shared : Office Thread} {running : Thread → Option (Locking Unit)}

theorem free_update (held : own.held = (state.own thread).held) (id : String) :
    Free (Function.update state.own thread own) id ↔ Free state.own id := by
  refine (Function.forall_update_iff _ fun _ (own : Caller) => id ∉ own.held).trans ?_
  rw [held]
  exact ⟨fun both other => if same : other = thread then same ▸ both.1 else both.2 other same,
    fun free => ⟨free thread, fun other _ => free other⟩⟩

theorem Free.update {id : String} (free : Free state.own id)
    (held : own.held = (state.own thread).held) : Free (Function.update state.own thread own) id :=
  (free_update held id).mpr free

theorem pending_update {request : Request}
    (pending : Pending ⟨shared, Function.update state.own thread own, running⟩ request) :
    request ∈ shared.queue ∨ own.handling = some request ∨
      ∃ engine, (state.own engine).handling = some request := by
  refine pending.imp id ?_
  rintro ⟨engine, handles⟩
  by_cases same : engine = thread
  · subst same
    dsimp only at handles
    rw [Function.update_self] at handles
    exact .inl handles
  · dsimp only at handles
    rw [Function.update_of_ne same] at handles
    exact .inr ⟨engine, handles⟩

/-- A call that leaves the locks alone. -/
theorem Orderly.update (orderly : Orderly state) (held : own.held = (state.own thread).held)
    (locks : shared.locks = state.shared.locks)
    (mutex : 0 < own.depth → shared.mutex = some thread)
    (others : ∀ other, other ≠ thread → 0 < (state.own other).depth → shared.mutex = some other)
    (unlocked : ∀ id, own.unlocked = some id → 0 < own.depth ∧ Free state.own id)
    (pending : ∀ request,
      Pending ⟨shared, Function.update state.own thread own, running⟩ request →
        Free state.own request.workflowId ∧ (0 < own.depth ∧ own.sent = some request ∨
          ∃ other, other ≠ thread ∧ 0 < (state.own other).depth ∧
            (state.own other).sent = some request))
    (rollback : ∀ id ∈ own.rollbacks, id ≠ "" → (∃ request, own.handling = some request) →
      Free state.own id) :
    Orderly ⟨shared, Function.update state.own thread own, running⟩ := by
  have free : ∀ id, Free (Function.update state.own thread own) id ↔ Free state.own id :=
    free_update held
  refine ⟨?_, ?_, ?_, fun request waiting => ?_, ?_⟩
  · exact (Function.forall_update_iff _ fun thread (own : Caller) => 0 < own.depth →
      shared.mutex = some thread).mpr ⟨mutex, others⟩
  · refine (Function.forall_update_iff _ fun thread (own : Caller) => ∀ id, id ∈ own.held ↔
      shared.locks.Holds thread id).mpr ?_
    rw [locks, held]
    exact ⟨orderly.held thread, fun other _ => orderly.held other⟩
  · refine (Function.forall_update_iff _ fun _ (own' : Caller) => ∀ id, own'.unlocked = some id →
      0 < own'.depth ∧ Free (Function.update state.own thread own) id).mpr ?_
    simp only [free]
    exact ⟨unlocked, fun other _ => orderly.unlocked other⟩
  · obtain ⟨unheld, here | ⟨other, apart, there⟩⟩ := pending request waiting
    · refine ⟨thread, ?_⟩
      show 0 < (Function.update state.own thread own thread).depth ∧
        (Function.update state.own thread own thread).sent = _ ∧ _
      rw [Function.update_self]
      exact ⟨here.1, here.2, (free _).mpr unheld⟩
    · refine ⟨other, ?_⟩
      show 0 < (Function.update state.own thread own other).depth ∧
        (Function.update state.own thread own other).sent = _ ∧ _
      rw [Function.update_of_ne apart]
      exact ⟨there.1, there.2, (free _).mpr unheld⟩
  · refine (Function.forall_update_iff _ fun _ (own' : Caller) => ∀ id ∈ own'.rollbacks, id ≠ "" →
      (∃ request, own'.handling = some request) →
        Free (Function.update state.own thread own) id).mpr ?_
    simp only [free]
    exact ⟨rollback, fun other _ => orderly.rollback other⟩

/-- A call that concerns neither the mutex nor the locks. -/
theorem Orderly.aside (orderly : Orderly state)
    (kept : own.depth = (state.own thread).depth ∧ own.held = (state.own thread).held ∧
      own.sent = (state.own thread).sent ∧ own.unlocked = (state.own thread).unlocked)
    (mutex : shared.mutex = state.shared.mutex) (locks : shared.locks = state.shared.locks)
    (pending : ∀ request,
      Pending ⟨shared, Function.update state.own thread own, running⟩ request →
        Pending state request)
    (rollback : ∀ id ∈ own.rollbacks, id ≠ "" → (∃ request, own.handling = some request) →
      Free state.own id) :
    Orderly ⟨shared, Function.update state.own thread own, running⟩ := by
  obtain ⟨depth, held, sent, unlocked⟩ := kept
  refine orderly.update held locks ?_ ?_ ?_ (fun request waiting => ?_) rollback
  · rw [depth, mutex]
    exact orderly.owner thread
  · rw [mutex]
    exact fun other _ => orderly.owner other
  · rw [unlocked, depth]
    exact orderly.unlocked thread
  · obtain ⟨other, there, waits, free⟩ := orderly.pending request (pending request waiting)
    refine ⟨free, ?_⟩
    by_cases same : other = thread
    · subst same
      exact .inl ⟨by rw [depth]; exact there, by rw [sent]; exact waits⟩
    · exact .inr ⟨other, same, there, waits⟩

/-- A call of the thread in the mutex while it waits for nothing: nothing is pending. -/
theorem Orderly.inside (orderly : Orderly state) (inside : 0 < (state.own thread).depth)
    (sent : (state.own thread).sent = none) (handling : own.handling = (state.own thread).handling)
    (mutex : 0 < own.depth → shared.mutex = some thread)
    (held : ∀ id, id ∈ own.held ↔ shared.locks.Holds thread id)
    (others : ∀ other, other ≠ thread → ∀ id,
      shared.locks.Holds other id ↔ state.shared.locks.Holds other id)
    (unlocked : ∀ id, own.unlocked = some id →
      0 < own.depth ∧ Free (Function.update state.own thread own) id)
    (queued : ∀ request ∈ shared.queue, request ∈ state.shared.queue ∨ 0 < own.depth ∧
      own.sent = some request ∧ Free (Function.update state.own thread own) request.workflowId) :
    Orderly ⟨shared, Function.update state.own thread own, running⟩ := by
  have quiet := orderly.quiet inside sent
  have outside : ∀ other, other ≠ thread → ¬0 < (state.own other).depth :=
    fun other apart there => apart (orderly.same_owner inside there)
  refine ⟨?_, ?_, ?_, fun request pending => ?_, ?_⟩
  · exact (Function.forall_update_iff _ fun thread (own : Caller) => 0 < own.depth →
      shared.mutex = some thread).mpr
        ⟨mutex, fun other apart there => absurd there (outside other apart)⟩
  · refine (Function.forall_update_iff _ fun thread (own : Caller) => ∀ id, id ∈ own.held ↔
      shared.locks.Holds thread id).mpr ⟨held, fun other apart id => ?_⟩
    rw [others other apart]
    exact orderly.held other id
  · refine (Function.forall_update_iff _ fun _ (own' : Caller) => ∀ id, own'.unlocked = some id →
      0 < own'.depth ∧ Free (Function.update state.own thread own) id).mpr
        ⟨unlocked, fun other apart id found => ?_⟩
    exact absurd (orderly.unlocked other id found).1 (outside other apart)
  · have here : own.depth = (Function.update state.own thread own thread).depth ∧
        own.sent = (Function.update state.own thread own thread).sent := by
      rw [Function.update_self]
      exact ⟨rfl, rfl⟩
    rcases pending_update pending with waiting | handles
    · rcases queued request waiting with old | ⟨depth, waits, free⟩
      · exact absurd (.inl old) (quiet request)
      · exact ⟨thread, here.1 ▸ depth, here.2 ▸ waits, free⟩
    · refine absurd (.inr ?_) (quiet request)
      rw [handling] at handles
      exact handles.elim (fun own => ⟨thread, own⟩) id
  · refine (Function.forall_update_iff _ fun _ (own' : Caller) => ∀ id ∈ own'.rollbacks, id ≠ "" →
      (∃ request, own'.handling = some request) →
        Free (Function.update state.own thread own) id).mpr ⟨?_, ?_⟩
    · rintro id - - ⟨request, handles⟩
      exact absurd (.inr ⟨thread, handling ▸ handles⟩) (quiet request)
    · rintro other - id - - ⟨request, handles⟩
      exact absurd (.inr ⟨other, handles⟩) (quiet request)

theorem pending_before {request : Request}
    (pending : Pending ⟨shared, Function.update state.own thread own, running⟩ request)
    (queue : shared.queue = state.shared.queue)
    (handling : own.handling = (state.own thread).handling) :
    Pending state request := by
  rcases pending_update pending with waiting | handles | elsewhere
  · rw [queue] at waiting
    exact .inl waiting
  · rw [handling] at handles
    exact .inr ⟨thread, handles⟩
  · exact .inr elsewhere

/-- The calls of the pool. -/
theorem orderly_pool (orderly : Orderly state) {c : PoolCall} {reply : c.Reply}
    {tables : Database} {context : TransactionContext Statement}
    (given : Answers c state.shared.tables (state.own thread).context reply tables context)
    (undisturbed : Undisturbed state (.call thread (.pool c))) (replies : List (String × Status)) :
    Orderly ⟨{ state.shared with tables := tables, replies := replies },
      Function.update state.own thread { (state.own thread).note c reply with context := context },
      running⟩ := by
  -- most calls leave the history of the thread as it is
  have same : (state.own thread).note c reply = state.own thread →
      Orderly ⟨{ state.shared with tables := tables, replies := replies },
        Function.update state.own thread
          { (state.own thread).note c reply with context := context }, running⟩ := by
    intro same
    rw [same]
    exact orderly.aside ⟨rfl, rfl, rfl, rfl⟩ rfl rfl
      (fun request pending => pending_before pending rfl rfl) (orderly.rollback thread)
  cases c with
  | select query =>
      cases query with
      | rollbackWorkflow id =>
          cases reply with
          | value found =>
              by_cases deletes : (state.own thread).deletes = true
              · have read : found ∈ (state.shared.tables.workflowById id).map
                    WorkflowRow.rollbackWorkflowId := by
                  rcases given.1 with failed | served
                  · cases failed
                  · have stored : Found.value found = Found.ofOption
                        ((state.shared.tables.workflowById id).map
                          WorkflowRow.rollbackWorkflowId) := served
                    cases row : (state.shared.tables.workflowById id).map
                        WorkflowRow.rollbackWorkflowId with
                    | none =>
                        rw [row] at stored
                        cases stored
                    | some other =>
                        rw [row] at stored
                        exact congrArg some (Found.value.inj stored).symm
                simp only [Caller.note, deletes, if_true]
                refine orderly.aside ⟨rfl, rfl, rfl, rfl⟩ rfl rfl
                  (fun request pending => pending_before pending rfl rfl) ?_
                intro other inside named handles
                rcases List.mem_cons.mp inside with rfl | old
                · exact undisturbed deletes other read named
                · exact orderly.rollback thread other old named handles
              · exact same (by simp [Caller.note, deletes])
          | _ => exact same rfl
      | _ => exact same (by cases reply <;> rfl)
  | send message =>
      cases message with
      | result ret option =>
          refine orderly.aside ⟨rfl, rfl, rfl, rfl⟩ rfl rfl (fun request pending => ?_)
            (fun _ none => absurd none List.not_mem_nil)
          rcases pending_update pending with queued | handles | elsewhere
          · exact .inl queued
          · cases handles
          · exact .inr elsewhere
      | _ => exact same rfl
  | _ => exact same rfl

/-- The calls that need the mutex. -/
theorem orderly_find (orderly : Orderly state) (workflowId : String)
    (inside : 0 < (state.own thread).depth ∧ (state.own thread).sent = none) :
    Orderly ⟨state.shared, Function.update state.own thread
      { state.own thread with
        unlocked := if state.shared.locks.isLocked workflowId then none else some workflowId },
      running⟩ := by
  refine orderly.update rfl rfl (orderly.owner thread) (fun other _ => orderly.owner other) ?_
    (fun request pending => ?_) (orderly.rollback thread)
  · intro id found
    refine ⟨inside.1, fun other holds => ?_⟩
    have locked : state.shared.locks.isLocked workflowId = true := by
      by_contra free
      simp only [free, if_false, Option.some.injEq] at found
      rw [found] at free
      exact free ((WorkflowLocks.isLocked_iff _ _).mpr ⟨other, (orderly.held other id).mp holds⟩)
    simp only [locked, if_true] at found
    cases found
  · exact absurd (pending_before pending rfl rfl) (orderly.quiet inside.1 inside.2 request)

theorem orderly_mutexUnlock (orderly : Orderly state)
    (inside : 0 < (state.own thread).depth ∧ (state.own thread).sent = none) :
    Orderly ⟨{ state.shared with
      mutex := if (state.own thread).depth = 1 then none else state.shared.mutex },
      Function.update state.own thread
        { state.own thread with
          depth := (state.own thread).depth - 1
          unlocked := if (state.own thread).depth = 1 then none else (state.own thread).unlocked },
      running⟩ := by
  refine orderly.inside inside.1 inside.2 rfl ?_ (orderly.held thread) (fun _ _ _ => Iff.rfl) ?_
    (fun request waiting => .inl waiting)
  · intro more
    have nested : (state.own thread).depth ≠ 1 := by
      intro outermost
      simp [outermost] at more
    simp only [if_neg nested]
    exact orderly.owner thread inside.1
  · intro id found
    by_cases outermost : (state.own thread).depth = 1
    · simp [outermost] at found
    · simp only [if_neg outermost] at found
      refine ⟨by dsimp only; omega, (orderly.unlocked thread id found).2.update rfl⟩

theorem orderly_lock (orderly : Orderly state) (workflowId : String)
    (inside : 0 < (state.own thread).depth ∧ (state.own thread).sent = none) :
    Orderly ⟨{ state.shared with locks := state.shared.locks.lock thread workflowId },
      Function.update state.own thread
        { state.own thread with
          held := workflowId :: (state.own thread).held
          unlocked := none },
      running⟩ := by
  refine orderly.inside inside.1 inside.2 rfl (orderly.owner thread) ?_ ?_ (fun _ => nofun)
    (fun request waiting => .inl waiting)
  · intro id
    rw [WorkflowLocks.lock_holds, ← orderly.held thread id]
    simp [or_comm]
  · intro other apart id
    rw [WorkflowLocks.lock_holds]
    simp [apart]

theorem orderly_unlock (orderly : Orderly state) (workflowId : String)
    (inside : 0 < (state.own thread).depth ∧ (state.own thread).sent = none) :
    Orderly ⟨{ state.shared with locks := state.shared.locks.unlock thread workflowId },
      Function.update state.own thread
        { state.own thread with held := (state.own thread).held.filter (· ≠ workflowId) },
      running⟩ := by
  refine orderly.inside inside.1 inside.2 rfl (orderly.owner thread) ?_ ?_ ?_
    (fun request waiting => .inl waiting)
  · intro id
    rw [WorkflowLocks.unlock_holds, ← orderly.held thread id]
    simp
  · intro other apart id
    rw [WorkflowLocks.unlock_holds]
    simp [apart]
  · intro id found
    obtain ⟨depth, free⟩ := orderly.unlocked thread id found
    refine ⟨depth, (Function.forall_update_iff _ fun _ (own : Caller) => id ∉ own.held).mpr
      ⟨fun holds => free thread (List.mem_filter.mp holds).1, fun other _ => free other⟩⟩

theorem orderly_send (orderly : Orderly state) {request : Request}
    (inside : 0 < (state.own thread).depth ∧ (state.own thread).sent = none ∧
      (state.own thread).unlocked = some request.workflowId) {queue : List Request}
    (queued : queue ⊆ state.shared.queue ++ [request]) :
    Orderly ⟨{ state.shared with queue := queue },
      Function.update state.own thread { state.own thread with sent := some request },
      running⟩ := by
  refine orderly.inside inside.1 inside.2.1 rfl (orderly.owner thread) (orderly.held thread)
    (fun _ _ _ => Iff.rfl) ?_ (fun other waiting => ?_)
  · intro id found
    obtain ⟨depth, free⟩ := orderly.unlocked thread id found
    exact ⟨depth, free.update rfl⟩
  · rcases List.mem_append.mp (queued waiting) with old | last
    · exact .inl old
    · obtain rfl := List.mem_singleton.mp last
      exact .inr ⟨inside.1, rfl, (orderly.unlocked thread _ inside.2.2).2.update rfl⟩

theorem orderly_receive (orderly : Orderly state) {request : Request}
    (waiting : request ∈ state.shared.queue) :
    Orderly ⟨{ state.shared with queue := state.shared.queue.erase request },
      Function.update state.own thread
        { state.own thread with handling := some request, rollbacks := [] },
      running⟩ := by
  refine orderly.aside ⟨rfl, rfl, rfl, rfl⟩ rfl rfl (fun other pending => ?_)
    (fun _ none => absurd none List.not_mem_nil)
  rcases pending_update pending with queued | handles | elsewhere
  · exact .inl (List.mem_of_mem_erase queued)
  · obtain rfl := Option.some.inj handles
    exact .inl waiting
  · exact .inr elsewhere

theorem orderly_mutexLock (orderly : Orderly state)
    (free : state.shared.mutex = none ∨ state.shared.mutex = some thread) :
    Orderly ⟨{ state.shared with mutex := some thread }, Function.update state.own thread
      { state.own thread with depth := (state.own thread).depth + 1 }, running⟩ := by
  have only : ∀ other, 0 < (state.own other).depth → other = thread := by
    intro other there
    have owner := orderly.owner other there
    rcases free with none | some
    · rw [none] at owner
      cases owner
    · rw [some] at owner
      exact (Option.some.inj owner).symm
  refine orderly.update rfl rfl (fun _ => rfl) ?_ ?_ (fun request pending => ?_)
    (orderly.rollback thread)
  · exact fun other apart there => absurd (only other there) apart
  · exact fun id found => ⟨Nat.succ_pos _, (orderly.unlocked thread id found).2⟩
  · obtain ⟨other, there, waits, unheld⟩ := orderly.pending request (pending_before pending rfl rfl)
    obtain rfl := only other there
    exact ⟨unheld, .inl ⟨Nat.succ_pos _, waits⟩⟩

theorem orderly_wait (orderly : Orderly state)
    (answered : ∀ request, (state.own thread).sent = some request → ¬Pending state request)
    (replies : List (String × Status)) :
    Orderly ⟨{ state.shared with replies := replies }, Function.update state.own thread
      { state.own thread with sent := none }, running⟩ := by
  refine orderly.update rfl rfl (orderly.owner thread) (fun other _ => orderly.owner other)
    (orderly.unlocked thread) (fun request pending => ?_) (orderly.rollback thread)
  have before : Pending state request := pending_before pending rfl rfl
  obtain ⟨other, there, waits, free⟩ := orderly.pending request before
  refine ⟨free, .inr ⟨other, ?_, there, waits⟩⟩
  rintro rfl
  exact answered request waits before

variable {env : Process}

theorem orderly_step {next : State Thread} {label : Label Thread} (orderly : Orderly state)
    (proper : (machine env Thread).Proper (fun _ _ _ _ => True) (fun _ _ => True)
      (fun _ c _ own => Asserts own c) (fun _ _ => Calm 0) state)
    (undisturbed : Undisturbed state label) (taken : (machine env Thread).Step state label next) :
    Orderly next := by
  have asserted : ∀ thread c, label = .call thread c → Asserts (state.own thread) c := by
    rintro thread c rfl
    exact Machine.Proper.asserted (machine_sound env Thread) proper taken
  cases taken with
  | start thread operation idle =>
      have kept : ((machine env Thread).enter thread operation state.shared (state.own thread)).2 =
          state.own thread := by
        cases operation <;> rfl
      have shared : ∃ tables, ((machine env Thread).enter thread operation state.shared
          (state.own thread)).1 = { state.shared with tables := tables } := by
        cases operation with
        | others tables => exact ⟨tables, rfl⟩
        | _ => exact ⟨state.shared.tables, rfl⟩
      obtain ⟨tables, shared⟩ := shared
      rw [kept, shared, Function.update_eq_self]
      exact ⟨orderly.owner, orderly.held, orderly.unlocked, orderly.pending, orderly.rollback⟩
  | call thread c rest running reply shared own answered =>
      have asserted := asserted thread c rfl
      cases c with
      | pool c =>
          obtain ⟨tables, context, given, rfl, rfl⟩ := answered
          exact orderly_pool orderly given undisturbed _
      | mutexLock =>
          obtain ⟨free, rfl, rfl⟩ := answered
          exact orderly_mutexLock orderly free
      | mutexUnlock =>
          obtain ⟨rfl, rfl⟩ := answered
          exact orderly_mutexUnlock orderly asserted
      | find workflowId =>
          obtain ⟨rfl, rfl, rfl⟩ := answered
          exact orderly_find orderly workflowId asserted
      | lock workflowId =>
          obtain ⟨rfl, rfl⟩ := answered
          exact orderly_lock orderly workflowId asserted
      | unlock workflowId =>
          obtain ⟨rfl, rfl⟩ := answered
          exact orderly_unlock orderly workflowId asserted
      | tempUnitName =>
          obtain ⟨rfl, rfl⟩ := answered
          rw [Function.update_eq_self]
          exact ⟨orderly.owner, orderly.held, orderly.unlocked, orderly.pending, orderly.rollback⟩
      | send request =>
          obtain ⟨queued | lost, rfl⟩ := answered
          · rw [queued]
            exact orderly_send orderly asserted fun _ inside => inside
          · rw [lost]
            exact orderly_send orderly asserted fun _ inside => List.mem_append_left _ inside
      | wait unit =>
          obtain ⟨-, rfl, rfl⟩ := answered
          exact orderly_wait orderly undisturbed _
      | receive engine =>
          obtain ⟨waiting, -, rfl, rfl⟩ := answered
          exact orderly_receive orderly waiting
  | finish => exact ⟨orderly.owner, orderly.held, orderly.unlocked, orderly.pending,
      orderly.rollback⟩
  | crash => exact undisturbed.elim

/-- The runs whose steps meet a condition. -/
def Runs (env : Process) (tables : Database) (condition : State Thread → Label Thread → Prop) :=
  Transition.Run (Transition.Guarded condition (machine env Thread).Step) (start Thread tables)

theorem orderly_of_runs {tables : Database} {labels : List (Label Thread)} {last : State Thread}
    (run : Runs env tables Undisturbed labels last) :
    Orderly last ∧ (machine env Thread).Proper (fun _ _ _ _ => True) (fun _ _ => True)
      (fun _ c _ own => Asserts own c) (fun _ _ => Calm 0) last := by
  refine Transition.Run.induct (P := fun _ last => Orderly last ∧
    (machine env Thread).Proper (fun _ _ _ _ => True) (fun _ _ => True)
      (fun _ c _ own => Asserts own c) (fun _ _ => Calm 0) last) ?_ ?_ run
  · exact ⟨start_orderly tables, fun thread => ⟨rfl, rfl, rfl, rfl⟩⟩
  · rintro labels state label next - ⟨orderly, proper⟩ ⟨undisturbed, taken⟩
    refine ⟨orderly_step orderly proper undisturbed taken,
      proper.step (machine_sound env Thread) ?_ taken⟩
    cases label with
    | start => trivial
    | call => trivial
    | finish => trivial
    | crash => exact undisturbed

/-- The engines leave a locked workflow alone: they handle no request about it, and no call
of theirs takes it out of the pool. -/
structure Respected (env : Process) (state : State Thread) : Prop where
  handling : ∀ engine request, (state.own engine).handling = some request →
    Free state.own request.workflowId
  deletes : ∀ thread c next, (machine env Thread).Step state (.call thread c) next → ∀ id,
    state.shared.tables.Present id → ¬next.shared.tables.Present id → Free state.own id

omit [DecidableEq Thread] in
theorem Orderly.free (orderly : Orderly state) {engine : Thread} {request : Request}
    (handles : (state.own engine).handling = some request) : Free state.own request.workflowId := by
  obtain ⟨-, -, -, free⟩ := orderly.pending request (.inr ⟨engine, handles⟩)
  exact free

omit [DecidableEq Thread] in
theorem Orderly.covers (orderly : Orderly state) {id : String}
    (covers : Covers (state.own thread) id) : Free state.own id := by
  obtain ⟨request, handles, rfl | ⟨inside, named⟩⟩ := covers
  · exact orderly.free handles
  · exact orderly.rollback thread id inside named ⟨request, handles⟩

/-- The engines delete and roll back no locked workflow, as long as no request outlives the
wait for its answer and no locked rollback workflow is deleted along. -/
theorem lock_respected {tables : Database} {labels : List (Label Thread)} {last : State Thread}
    (run : Runs env tables Undisturbed labels last) : Respected env last := by
  obtain ⟨orderly, proper⟩ := orderly_of_runs run
  refine ⟨fun engine request handles => orderly.free handles, ?_⟩
  intro thread c next taken id present absent
  have asserted : Asserts (last.own thread) c :=
    Machine.Proper.asserted (machine_sound env Thread) proper taken
  cases taken with
  | call _ _ rest running reply shared own answered =>
      cases c with
      | pool c =>
          obtain ⟨tables, context, given, rfl, rfl⟩ := answered
          obtain ⟨executed, done, source⟩ := given.executes
          have deletes : ∃ s ∈ executed, s.Deletes id := by
            by_contra none
            exact absent (Database.executeTransaction_present done present
              fun s inside deletes => none ⟨s, inside, deletes⟩)
          obtain ⟨s, inside, deletes⟩ := deletes
          suffices here : Covers (last.own thread) id from orderly.covers here
          rcases source with rfl | ⟨s', rfl, -, rfl⟩ | ⟨rfl, outermost, rfl⟩
          · cases inside
          · rw [List.mem_singleton.mp inside] at deletes
            exact asserted id deletes
          · exact asserted outermost s inside id deletes
      | mutexLock =>
          obtain ⟨-, rfl, -⟩ := answered
          exact absurd present absent
      | mutexUnlock =>
          obtain ⟨rfl, -⟩ := answered
          exact absurd present absent
      | find =>
          obtain ⟨-, rfl, -⟩ := answered
          exact absurd present absent
      | lock =>
          obtain ⟨rfl, -⟩ := answered
          exact absurd present absent
      | unlock =>
          obtain ⟨rfl, -⟩ := answered
          exact absurd present absent
      | tempUnitName =>
          obtain ⟨rfl, -⟩ := answered
          exact absurd present absent
      | send =>
          obtain ⟨queued | lost, -⟩ := answered
          · rw [queued] at absent
            exact absurd present absent
          · rw [lost] at absent
            exact absurd present absent
      | wait =>
          obtain ⟨-, rfl, -⟩ := answered
          exact absurd present absent
      | receive =>
          obtain ⟨-, -, rfl, -⟩ := answered
          exact absurd present absent

end Steps

/-! The stored two-step workflow: a user and an engine. -/

open EngineRuns (oneEngine chainStored)

/-- One way to answer each call; whoever finds no reply gives up. -/
def serve (thread : Bool) (c : LockCall) (shared : Office Bool) (own : Caller) :
    Option (c.Reply × Office Bool × Caller) :=
  match c with
  | .pool c =>
      let answered := answer true shared.tables own.context c
      some (answered.1,
        { shared with tables := answered.2.1, replies := deliver c shared.replies },
        { own.note c answered.1 with context := answered.2.2 })
  | .mutexLock =>
      if shared.mutex = none ∨ shared.mutex = some thread then
        some ((), { shared with mutex := some thread }, { own with depth := own.depth + 1 })
      else none
  | .mutexUnlock =>
      some ((), { shared with mutex := if own.depth = 1 then none else shared.mutex },
        { own with
          depth := own.depth - 1
          unlocked := if own.depth = 1 then none else own.unlocked })
  | .find workflowId =>
      let locked := shared.locks.isLocked workflowId
      some (locked, shared, { own with unlocked := if locked then none else some workflowId })
  | .lock workflowId =>
      some ((), { shared with locks := shared.locks.lock thread workflowId },
        { own with held := workflowId :: own.held, unlocked := none })
  | .unlock workflowId =>
      some ((), { shared with locks := shared.locks.unlock thread workflowId },
        { own with held := own.held.filter (· ≠ workflowId) })
  | .tempUnitName stem => some (stem, shared, own)
  | .send request =>
      some ((), { shared with queue := shared.queue ++ [request] },
        { own with sent := some request })
  | .wait unit =>
      let rest := { shared with replies := shared.replies.filter (·.1 ≠ unit) }
      match shared.replies.find? (·.1 == unit) with
      | some (_, ret) => some (ret, rest, { own with sent := none })
      | none => some (Status.errorTimeOut, rest, { own with sent := none })
  | .receive engine =>
      match shared.queue.find? (·.engine == engine) with
      | some request =>
          some (request, { shared with queue := shared.queue.erase request },
            { own with handling := some request, rollbacks := [] })
      | none => none

theorem serve_sound (thread : Bool) (c : LockCall) (shared : Office Bool) (own : Caller)
    (answered : c.Reply × Office Bool × Caller)
    (served : serve thread c shared own = some answered) :
    answers thread c shared own answered.1 answered.2.1 answered.2.2 := by
  cases c with
  | pool c =>
      obtain rfl := Option.some.inj served
      exact ⟨_, _, answers_answer _ _ c, rfl, rfl⟩
  | mutexLock =>
      simp only [serve] at served
      split at served
      · rename_i free
        obtain rfl := Option.some.inj served
        exact ⟨free, rfl, rfl⟩
      · cases served
  | mutexUnlock =>
      obtain rfl := Option.some.inj served
      exact ⟨rfl, rfl⟩
  | find =>
      obtain rfl := Option.some.inj served
      exact ⟨rfl, rfl, rfl⟩
  | lock =>
      obtain rfl := Option.some.inj served
      exact ⟨rfl, rfl⟩
  | unlock =>
      obtain rfl := Option.some.inj served
      exact ⟨rfl, rfl⟩
  | tempUnitName =>
      obtain rfl := Option.some.inj served
      exact ⟨rfl, rfl⟩
  | send =>
      obtain rfl := Option.some.inj served
      exact ⟨.inl rfl, rfl⟩
  | wait unit =>
      simp only [serve] at served
      split at served
      · rename_i name ret found
        obtain rfl := Option.some.inj served
        have named := List.find?_some found
        refine ⟨.inl ?_, rfl, rfl⟩
        rw [← beq_iff_eq.mp named]
        exact List.mem_of_find?_eq_some found
      · obtain rfl := Option.some.inj served
        exact ⟨.inr rfl, rfl, rfl⟩
  | receive engine =>
      simp only [serve] at served
      split at served
      · rename_i request found
        obtain rfl := Option.some.inj served
        have here := List.find?_some found
        exact ⟨List.mem_of_find?_eq_some found, beq_iff_eq.mp here, rfl, rfl⟩
      · cases served

instance [Fintype Thread] (own : Thread → Caller) (workflowId : String) :
    Decidable (Free own workflowId) :=
  inferInstanceAs (Decidable (∀ thread, workflowId ∉ (own thread).held))

instance [Fintype Thread] (state : State Thread) (request : Request) :
    Decidable (Pending state request) :=
  inferInstanceAs (Decidable (request ∈ state.shared.queue ∨
    ∃ engine, (state.own engine).handling = some request))

instance [Fintype Thread] (state : State Thread) (label : Label Thread) :
    Decidable (Undisturbed state label) := by
  unfold Undisturbed
  split <;> infer_instance

theorem runs_of_moves {condition : State Bool → Label Bool → Prop}
    [∀ state label, Decidable (condition state label)]
    {choices : List (Machine.Move Bool Operation)} {check : State Bool → Bool}
    (checked : ((machine oneEngine Bool).moves serve condition (start Bool chainStored)
      choices).any check = true) :
    ∃ labels last, Runs oneEngine chainStored condition labels last ∧ check last = true := by
  obtain ⟨last, moved, holds⟩ := (Option.any_eq_true _ _).mp checked
  obtain ⟨labels, run⟩ := Machine.run_of_moves serve_sound moved
  exact ⟨labels, last, run, holds⟩

/-- The engine is about to delete the workflow, and its user waits. -/
def deleting : List (Machine.Move Bool Operation) :=
  [.start true (.delete "w-chain")] ++ List.replicate 7 (.advance true) ++
    [.start false (.handle 0)] ++ List.replicate 11 (.advance false)

/-- The user has given up and locked the workflow before the engine takes the request. -/
def abandoned : List (Machine.Move Bool Operation) :=
  [.start true (.delete "w-chain")] ++ List.replicate 10 (.advance true) ++
    [.start true (.lock "w-chain")] ++ List.replicate 4 (.advance true) ++
    [.start false (.handle 0)] ++ List.replicate 11 (.advance false)

def lockingMoves : List (Machine.Move Bool Operation) :=
  [.start true (.lock "w-chain")] ++ List.replicate 4 (.advance true)

/-- The lock is given back before the workflow is deleted. -/
def unlockingMoves : List (Machine.Move Bool Operation) :=
  lockingMoves ++ [.start true (.unlock "w-chain")] ++ List.replicate 4 (.advance true) ++ deleting

/-- A user holds the lock, and an engine handles a request after the lock was given back. -/
theorem lock_respected_chain :
    (∃ labels last, Runs oneEngine chainStored (@Undisturbed Bool) labels last ∧
      "w-chain" ∈ (last.own true).held ∧ Respected oneEngine last) ∧
    ∃ labels last, Runs oneEngine chainStored (@Undisturbed Bool) labels last ∧
      (last.own false).handling.isSome = true ∧ Respected oneEngine last := by
  have locks : ((machine oneEngine Bool).moves serve Undisturbed (start Bool chainStored)
      lockingMoves).any (fun last => "w-chain" ∈ (last.own true).held) = true := by
    decide
  have unlocks : ((machine oneEngine Bool).moves serve Undisturbed (start Bool chainStored)
      unlockingMoves).any (fun last => (last.own false).handling.isSome) = true := by
    decide
  obtain ⟨labels, last, run, holds⟩ := runs_of_moves locks
  obtain ⟨labels', last', run', handles⟩ := runs_of_moves unlocks
  exact ⟨⟨labels, last, run, of_decide_eq_true holds, lock_respected run⟩,
    labels', last', run', handles, lock_respected run'⟩

/-- The next call of the engine takes the workflow out of the pool. -/
def removes (last : State Bool) : Bool :=
  decide (last.shared.tables.Present "w-chain") &&
    match last.running false with
    | some (.call c _) => (serve false c last.shared (last.own false)).any fun answered =>
        !decide (answered.2.1.tables.Present "w-chain")
    | _ => false

theorem step_of_removes {last : State Bool} (removed : removes last = true) : ∃ c next,
    (machine oneEngine Bool).Step last (.call false c) next ∧
      last.shared.tables.Present "w-chain" ∧ ¬next.shared.tables.Present "w-chain" := by
  unfold removes at removed
  obtain ⟨present, gone⟩ := (Bool.and_eq_true _ _).mp removed
  split at gone
  · rename_i c rest running
    obtain ⟨answered, served, absent⟩ := (Option.any_eq_true _ _).mp gone
    exact ⟨c, _, .call false c rest running _ _ _ (serve_sound _ _ _ _ _ served),
      of_decide_eq_true present, by simpa using absent⟩
  · cases gone

/-- A request that outlives the wait for its answer deletes a locked workflow. -/
theorem locked_deleted : ∃ labels last c next,
    Runs oneEngine chainStored (fun _ _ => True) labels last ∧
      (machine oneEngine Bool).Step last (.call false c) next ∧
      last.shared.tables.Present "w-chain" ∧ ¬next.shared.tables.Present "w-chain" ∧
      "w-chain" ∈ (last.own true).held ∧ (last.running true).isNone ∧
      ¬Respected oneEngine last := by
  have checked : ((machine oneEngine Bool).moves serve (fun _ _ => True) (start Bool chainStored)
      abandoned).any (fun last => removes last &&
        decide ("w-chain" ∈ (last.own true).held) && (last.running true).isNone) = true := by
    decide
  obtain ⟨labels, last, run, ends⟩ := runs_of_moves checked
  obtain ⟨both, idle⟩ := (Bool.and_eq_true _ _).mp ends
  obtain ⟨removed, held⟩ := (Bool.and_eq_true _ _).mp both
  obtain ⟨c, next, taken, present, absent⟩ := step_of_removes removed
  have held := of_decide_eq_true held
  refine ⟨labels, last, c, next, run, taken, present, absent, held, idle, fun respected => ?_⟩
  exact respected.deletes false c next taken "w-chain" present absent true held

end WorkflowLock

end Tecs
