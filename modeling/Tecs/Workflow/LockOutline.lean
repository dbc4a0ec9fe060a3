import Tecs.Workflow.FinishTables
import Tecs.Workflow.WorkflowLock

set_option autoImplicit false

namespace Tecs

open Effect ActionPool

namespace WorkflowLock

/-- The workflows that the request a thread handles makes it delete. -/
def Covers (own : Caller) (workflowId : String) : Prop :=
  ∃ request, own.handling = some request ∧
    (workflowId = request.workflowId ∨ workflowId ∈ own.rollbacks ∧ workflowId ≠ "")

/-- What a thread knows of itself at its calls. -/
def Asserts (own : Caller) : LockCall → Prop
  | .pool (.sql s) => ∀ id, s.Deletes id → Covers own id
  | .pool .transactionCommit => own.context.beginCount = 1 →
      ∀ s ∈ own.context.sql, ∀ id, s.Deletes id → Covers own id
  | .mutexUnlock => 0 < own.depth ∧ own.sent = none
  | .find _ => 0 < own.depth ∧ own.sent = none
  | .lock _ => 0 < own.depth ∧ own.sent = none
  | .unlock _ => 0 < own.depth ∧ own.sent = none
  | .send request => 0 < own.depth ∧ own.sent = none ∧ own.unlocked = some request.workflowId
  | _ => True

section Rules

variable {env : Process} {Thread : Type} [DecidableEq Thread] {thread : Thread} {α β : Type}

/-- The proof outlines speak of the thread alone. -/
def Meets (env : Process) (thread : Thread) (p : Locking α) (post : α → Caller → Prop)
    (own : Caller) : Prop :=
  ∀ shared, p.Meets (S := locking)
    ((machine env Thread).Permitted (fun _ _ _ _ => True) thread) (fun _ _ => True)
    (fun c _ own => Asserts own c) (fun value _ own => post value own) shared own

variable {own : Caller} {post : α → Caller → Prop}

theorem meets_ret {value : α} (held : post value own) : Meets env thread (.ret value) post own :=
  fun _ _ _ => held

theorem meets_call {c : LockCall} {next : c.Reply → Locking α} (asserted : Asserts own c)
    (continues : ∀ shared reply shared' own', answers thread c shared own reply shared' own' →
      Meets env thread (next reply) post own') :
    Meets env thread (.call c next) post own :=
  fun _ later _ => ⟨asserted, fun reply after own' answered =>
    continues later reply after own' answered.2 after⟩

theorem meets_perform {c : LockCall} {post : c.Reply → Caller → Prop} (asserted : Asserts own c)
    (answered : ∀ shared reply shared' own', answers thread c shared own reply shared' own' →
      post reply own') :
    Meets env thread (perform c) post own :=
  meets_call asserted fun shared reply shared' own' given =>
    meets_ret (answered shared reply shared' own' given)

theorem meets_bind {p : Locking β} {rest : β → Locking α}
    (first : Meets env thread p (fun value => Meets env thread (rest value) post) own) :
    Meets env thread (p >>= rest) post own := by
  intro shared
  refine Program.Meets.bind (fun _ => trivial) (Program.Meets.mono ?_ (first shared))
  exact fun value later own' continues => continues later

theorem meets_mono {p : Locking α} {weaker : α → Caller → Prop}
    (weaken : ∀ value own, post value own → weaker value own)
    (meets : Meets env thread p post own) : Meets env thread p weaker own :=
  fun shared => Program.Meets.mono (fun value _ own held => weaken value own held) (meets shared)

theorem carried_bind (p : Pool β) (rest : β → Pool α) :
    carried (p >>= rest) = carried p >>= fun value => carried (rest value) :=
  Program.translate_bind p rest

end Rules

section Reads

variable {env : Process} {Thread : Type} [DecidableEq Thread] {thread : Thread} {own : Caller}

/-- A thread that only read: it may know more rollback workflows. -/
def Grown (own later : Caller) : Prop :=
  ∃ more, own.rollbacks ⊆ more ∧ later = { own with rollbacks := more }

theorem Grown.refl (own : Caller) : Grown own own := ⟨own.rollbacks, fun _ inside => inside, rfl⟩

theorem Grown.trans {first second third : Caller} (front : Grown first second)
    (back : Grown second third) : Grown first third := by
  obtain ⟨more, grown, rfl⟩ := front
  obtain ⟨most, grown', rfl⟩ := back
  exact ⟨most, fun _ inside => grown' (grown inside), rfl⟩

theorem Grown.covers {own later : Caller} (grown : Grown own later) {id : String}
    (covers : Covers own id) : Covers later id := by
  obtain ⟨more, within, rfl⟩ := grown
  obtain ⟨request, handling, either⟩ := covers
  exact ⟨request, handling, either.imp_right fun both => ⟨within both.1, both.2⟩⟩

theorem note_grown {c : PoolCall} (reads : c.Reads) (own : Caller) (reply : c.Reply) :
    Grown own (own.note c reply) := by
  cases c with
  | select query =>
      cases query with
      | rollbackWorkflow id =>
          cases reply with
          | value found =>
              show Grown own (if own.deletes then { own with rollbacks := found :: own.rollbacks }
                else own)
              by_cases deletes : own.deletes = true
              · rw [if_pos deletes]
                exact ⟨found :: own.rollbacks, fun _ inside => List.mem_cons_of_mem _ inside, rfl⟩
              · rw [if_neg deletes]
                exact .refl own
          | _ => exact .refl own
      | _ => cases reply <;> exact .refl own
  | transactionOn => exact .refl own
  | keyValue => exact .refl own
  | _ => exact False.elim reads

theorem reads_answers {c : PoolCall} (reads : c.Reads) {shared shared' : Office Thread}
    {reply : c.Reply} {own' : Caller}
    (answered : answers thread (.pool c) shared own reply shared' own') :
    own' = own.note c reply := by
  obtain ⟨tables, context, given, -, rfl⟩ := answered
  have same : context = own.context := by
    cases c with
    | select query => exact given.2.2
    | transactionOn =>
        obtain ⟨ok, equal⟩ := given
        exact congrArg (fun answered => answered.2.2) equal
    | keyValue =>
        obtain ⟨ok, equal⟩ := given
        exact congrArg (fun answered => answered.2.2) equal
    | _ => exact False.elim reads
  rw [same]
  obtain ⟨more, -, noted⟩ := note_grown reads own reply
  rw [noted]

theorem carry_reads {c : PoolCall} (reads : c.Reads) : carry c = perform (.pool c) := by
  cases c with
  | isLockWorkflow => exact False.elim reads
  | request => exact False.elim reads
  | _ => rfl

theorem meets_reads {α : Type} {p : Pool α} (reads : Reads p) :
    ∀ {own : Caller}, Meets env thread (carried p) (fun _ later => Grown own later) own := by
  induction p with
  | ret value => exact fun {own} => meets_ret (.refl own)
  | call c next ih =>
      intro own
      have here : c.Reads := reads.1
      refine meets_bind (p := carry c) ?_
      rw [carry_reads here]
      refine meets_perform ?_ fun shared reply shared' own' answered => ?_
      · cases c with
        | sql => exact False.elim here
        | transactionCommit => exact False.elim here
        | _ => trivial
      · rw [reads_answers here answered]
        have grown := note_grown here own reply
        exact meets_mono (fun _ later more => grown.trans more) (ih reply (reads.2 reply))

/-- The rollback workflow that is read is one the thread knows afterwards. -/
theorem meets_getRollbackWorkflow (workflowId : String) (deletes : own.deletes = true) :
    Meets env thread (carried (getRollbackWorkflow workflowId))
      (fun found later => Grown own later ∧ (found ≠ "" → found ∈ later.rollbacks)) own := by
  have reads : (PoolCall.select (.rollbackWorkflow workflowId)).Reads := trivial
  refine meets_call trivial fun shared reply shared' own' answered => ?_
  rw [reads_answers reads answered]
  have grown := note_grown reads own reply
  cases reply with
  | value found =>
      refine meets_ret ⟨grown, fun _ => ?_⟩
      simp only [Caller.note, deletes, if_true]
      exact List.mem_cons_self
  | _ => exact meets_ret ⟨grown, fun other => absurd rfl other⟩

end Reads

/-! An engine at work on a request. -/

/-- With `depth` transactions open, every workflow these delete belongs to the request. -/
structure Working (request : Request) (depth : Nat) (own : Caller) : Prop where
  handling : own.handling = some request
  free : own.depth = 0
  sent : own.sent = none
  open_ : own.context.beginCount = depth
  covered : 0 < depth → ∀ s ∈ own.context.sql, ∀ id, s.Deletes id → Covers own id

section Working

variable {env : Process} {Thread : Type} [DecidableEq Thread] {thread : Thread} {own : Caller}
  {request : Request} {depth : Nat}

theorem Working.grown {later : Caller} (working : Working request depth own)
    (grown : Grown own later) : Working request depth later := by
  have covers := @Grown.covers own later grown
  obtain ⟨more, -, rfl⟩ := grown
  exact ⟨working.handling, working.free, working.sent, working.open_,
    fun on s inside id deletes => covers (working.covered on s inside id deletes)⟩

/-- The thread after a call that concerns its transaction only. -/
def Ahead (request : Request) (depth : Nat) (own later : Caller) : Prop :=
  Working request depth later ∧ ∃ context, later = { own with context := context }

theorem Ahead.trans {first second third : Caller} {depth' : Nat}
    (front : Ahead request depth first second) (back : Ahead request depth' second third) :
    Ahead request depth' first third := by
  obtain ⟨-, context, rfl⟩ := front
  obtain ⟨working, context', rfl⟩ := back
  exact ⟨working, context', rfl⟩

theorem Ahead.covers {later : Caller} (ahead : Ahead request depth own later) {id : String}
    (covers : Covers own id) : Covers later id := by
  obtain ⟨-, context, rfl⟩ := ahead
  exact covers

theorem meets_transaction {c : PoolCall} (inner : ∀ (own : Caller) reply, own.note c reply = own)
    (working : Working request depth own) (asserted : Asserts own (.pool c))
    (statement : ∀ s, c = .sql s → ∀ id, s.Deletes id → Covers own id)
    (closes : 0 < c.depth depth → 0 < depth) :
    Meets env thread (perform (.pool c)) (fun _ => Ahead request (c.depth depth) own) own := by
  refine meets_perform asserted fun shared reply shared' own' answered => ?_
  obtain ⟨tables, context, given, -, rfl⟩ := answered
  rw [inner]
  refine ⟨⟨working.handling, working.free, working.sent, ?_, ?_⟩, context, rfl⟩
  · show context.beginCount = _
    rw [given.beginCount, working.open_]
  · intro on s inside id deletes
    rcases given.statements inside with old | issued
    · exact working.covered (closes on) s old id deletes
    · exact statement s issued id deletes

theorem meets_sql (s : Statement) (covers : ∀ id, s.Deletes id → Covers own id)
    (working : Working request depth own) :
    Meets env thread (carried (Pool.sql s)) (fun _ => Ahead request depth own) own :=
  meets_transaction (fun _ _ => rfl) working covers
    (fun s' issued => by
      obtain rfl := PoolCall.sql.inj issued
      exact covers)
    fun on => on

theorem meets_commit (working : Working request (depth + 1) own) :
    Meets env thread (carried Pool.commit) (fun _ => Ahead request depth own) own :=
  meets_transaction (fun _ _ => rfl) working (fun _ => working.covered (Nat.succ_pos depth))
    (fun s issued => by cases issued) fun _ => Nat.succ_pos depth

theorem meets_cancel (working : Working request (depth + 1) own) :
    Meets env thread (carried Pool.cancel) (fun _ => Ahead request depth own) own :=
  meets_transaction (fun _ _ => rfl) working trivial (fun s issued => by cases issued)
    fun _ => Nat.succ_pos depth

theorem meets_begin (working : Working request depth own) :
    Meets env thread (carried Pool.begin) (fun _ => Ahead request (depth + 1) own) own := by
  refine meets_perform trivial fun shared reply shared' own' answered => ?_
  obtain ⟨tables, context, ⟨ok, equal⟩, -, rfl⟩ := answered
  have begun : context = own.context.begin := congrArg (fun answered => answered.2.2) equal
  refine ⟨⟨working.handling, working.free, working.sent, ?_, ?_⟩, context, rfl⟩
  · show context.beginCount = _
    rw [begun, TransactionContext.begin_beginCount, working.open_]
  · intro _ s inside id deletes
    have among : s ∈ own.context.begin.sql := begun ▸ inside
    rcases Nat.eq_zero_or_pos own.context.beginCount with off | on
    · rw [TransactionContext.begin_outermost off] at among
      cases among
    · rw [TransactionContext.begin_nested on] at among
      exact working.covered (working.open_ ▸ on) s among id deletes

theorem meets_saveWorkflowHistory (history : WorkflowHistory)
    (working : Working request depth own) :
    Meets env thread (carried (saveWorkflowHistory history)) (fun _ => Ahead request depth own)
      own := by
  unfold saveWorkflowHistory
  rw [carried_bind]
  refine meets_bind (meets_mono ?_ (meets_sql _ (fun _ none => none.elim) working))
  intro ret later ahead
  by_cases done : ret = sqldbOk
  · simp only [if_pos done]
    rw [carried_bind]
    refine meets_bind (meets_mono ?_ (meets_sql _ (fun _ none => none.elim) ahead.1))
    exact fun _ _ more => meets_ret (ahead.trans more)
  · simp only [if_neg done]
    exact meets_ret ahead

theorem meets_archiveWorkflow (history : WorkflowHistory) {ids : List String}
    (covers : ∀ id ∈ ids, Covers own id) (working : Working request depth own) :
    Meets env thread (carried (archiveWorkflow history ids)) (fun _ => Ahead request depth own)
      own := by
  unfold archiveWorkflow
  rw [carried_bind]
  refine meets_bind (meets_mono ?_ (meets_begin working))
  intro _ begun opened
  rw [carried_bind]
  refine meets_bind (meets_mono ?_ (meets_saveWorkflowHistory history opened.1))
  intro saved stored kept
  have ahead := opened.trans kept
  by_cases success : saved = Status.success
  · simp only [if_pos success]
    rw [carried_bind]
    refine meets_bind (meets_mono ?_ (meets_sql _
      (fun id deletes => ahead.covers (covers id deletes)) ahead.1))
    intro ret queued more
    have ahead := ahead.trans more
    by_cases done : ret = sqldbOk
    · simp only [if_pos done]
      exact meets_mono (fun _ _ last => ahead.trans last) (meets_commit ahead.1)
    · simp only [if_neg done]
      rw [carried_bind]
      refine meets_bind (meets_mono ?_ (meets_cancel ahead.1))
      exact fun _ _ last => meets_ret (ahead.trans last)
  · simp only [if_neg success]
    rw [carried_bind]
    refine meets_bind (meets_mono ?_ (meets_cancel ahead.1))
    exact fun _ _ last => meets_ret (ahead.trans last)

theorem meets_rollbackToDelete (withRollback : Bool) (working : Working request depth own)
    (deletes : withRollback = true → request.event = .deleteWorkflow) :
    Meets env thread (carried (rollbackToDelete request.workflowId withRollback))
      (fun found later => Working request depth later ∧
        ∀ id ∈ deletedIds request.workflowId found, Covers later id) own := by
  have first : ∀ {later : Caller}, Working request depth later → Covers later request.workflowId :=
    fun working => ⟨request, working.handling, .inl rfl⟩
  unfold rollbackToDelete
  by_cases both : withRollback = true
  · have event : own.deletes = true := by
      simp [Caller.deletes, working.handling, deletes both]
    rw [if_pos both]
    refine meets_mono ?_ (meets_getRollbackWorkflow request.workflowId event)
    rintro found later ⟨grown, known⟩
    refine ⟨working.grown grown, fun id inside => ?_⟩
    unfold deletedIds at inside
    split at inside
    · rw [List.mem_singleton.mp inside]
      exact first (working.grown grown)
    · rename_i named
      have some : found ≠ "" := by simpa using named
      rcases List.mem_cons.mp inside with rfl | last
      · exact first (working.grown grown)
      · rw [List.mem_singleton.mp last]
        exact ⟨request, (working.grown grown).handling, .inr ⟨known some, some⟩⟩
  · rw [if_neg both]
    refine meets_ret ⟨working, fun id inside => ?_⟩
    rw [List.mem_singleton.mp inside]
    exact first working

theorem meets_deleteWorkflow (withRollback : Bool) (working : Working request depth own)
    (deletes : withRollback = true → request.event = .deleteWorkflow) :
    Meets env thread (carried (ActionPool.deleteWorkflow request.workflowId withRollback))
      (fun _ => Working request depth) own := by
  unfold ActionPool.deleteWorkflow
  rw [carried_bind]
  refine meets_bind (meets_mono ?_ (meets_reads (reads_getWorkflowById _)))
  intro found read grown
  have working := working.grown grown
  cases found with
  | error => exact meets_ret working
  | ok row =>
      show Meets env thread (carried (makeWorkflowHistory _ _ >>= _)) _ _
      rw [carried_bind]
      refine meets_bind (meets_mono ?_ (meets_reads (reads_makeWorkflowHistory _ _)))
      intro made later grown
      have working := working.grown grown
      cases made with
      | error => exact meets_ret working
      | ok history =>
          show Meets env thread (carried (rollbackToDelete _ _ >>= _)) _ _
          rw [carried_bind]
          refine meets_bind (meets_mono ?_ (meets_rollbackToDelete withRollback working deletes))
          rintro found last ⟨working, covers⟩
          exact meets_mono (fun _ _ ahead => ahead.1)
            (meets_archiveWorkflow history covers working)

theorem meets_setWorkflowPauseFlag (workflowId : String) (flag : Bool)
    (working : Working request depth own) :
    Meets env thread (carried (setWorkflowPauseFlag workflowId flag))
      (fun _ => Working request depth)
      own := by
  unfold setWorkflowPauseFlag update
  rw [carried_bind]
  refine meets_bind (meets_mono ?_ (meets_sql _ (fun _ none => none.elim) working))
  exact fun _ _ ahead => meets_ret ahead.1

theorem meets_wakeup (engine : Int) (workflowId : String) {holds : Caller → Prop}
    (held : holds own) :
    Meets env thread (carried (Pool.wakeup engine workflowId)) (fun _ => holds) own := by
  refine meets_perform trivial fun shared reply shared' own' answered => ?_
  obtain ⟨tables, context, given, -, rfl⟩ := answered
  rw [show context = own.context from given.2]
  exact held

theorem meets_rollback (engine : EngineWhere) (working : Working request 0 own) :
    Meets env thread (carried (WorkflowEngine.rollback engine request.workflowId))
      (fun _ => Working request 0) own := by
  unfold WorkflowEngine.rollback
  by_cases named : (request.workflowId == "") = true
  · rw [if_pos named]
    exact meets_ret working
  · rw [if_neg named, carried_bind]
    refine meets_bind (meets_mono ?_ (meets_reads (reads_getRollbackWorkflow _)))
    intro rollbackWorkflowId read grown
    have working := working.grown grown
    by_cases none : (rollbackWorkflowId == "") = true
    · simp only [if_pos none]
      exact meets_ret working
    · simp only [if_neg none]
      rw [carried_bind]
      refine meets_bind (meets_mono ?_ (meets_begin working))
      intro _ begun opened
      rw [carried_bind]
      refine meets_bind (meets_mono ?_ (meets_deleteWorkflow false opened.1 nofun))
      intro _ deleted working
      rw [carried_bind]
      refine meets_bind (meets_mono ?_ (meets_setWorkflowPauseFlag _ false working))
      intro _ resumed working
      rw [carried_bind]
      refine meets_bind (meets_mono ?_ (meets_commit working))
      intro ret committed ahead
      by_cases done : ret ≠ Status.success
      · simp only [if_pos done]
        exact meets_ret ahead.1
      · simp only [if_neg done]
        exact meets_wakeup _ _ ahead.1

end Working

/-! Between the operations, and the users' functions. -/

/-- A thread that has locked the mutex this often, and neither waits nor handles a request. -/
structure Calm (depth : Nat) (own : Caller) : Prop where
  depth_eq : own.depth = depth
  sent : own.sent = none
  handling : own.handling = none
  closed : own.context.beginCount = 0

section Users

variable {env : Process} {Thread : Type} [DecidableEq Thread] {thread : Thread} {own : Caller}
  {depth : Nat}

theorem Calm.grown {later : Caller} (calm : Calm depth own) (grown : Grown own later) :
    Calm depth later := by
  obtain ⟨more, -, rfl⟩ := grown
  exact ⟨calm.depth_eq, calm.sent, calm.handling, calm.closed⟩

theorem meets_result (ret : Status) (option : MessageOption) {request : Request}
    (working : Working request 0 own) :
    Meets env thread (carried (Pool.send (.result ret option))) (fun _ => Calm 0) own := by
  refine meets_perform trivial fun shared reply shared' own' answered => ?_
  obtain ⟨tables, context, given, -, rfl⟩ := answered
  exact ⟨working.free, working.sent, rfl, given.beginCount.trans working.open_⟩

theorem meets_handle (index : Int) (calm : Calm 0 own) :
    Meets env thread (handle env index) (fun _ => Calm 0) own := by
  refine meets_call trivial fun shared request shared' own' answered => ?_
  obtain ⟨-, -, -, rfl⟩ := answered
  have working : Working request 0 { own with handling := some request, rollbacks := [] } :=
    ⟨rfl, calm.depth_eq, calm.sent, calm.closed, fun on => absurd on (Nat.lt_irrefl 0)⟩
  show Meets env thread (carried (WorkflowEngine.messageEntry env _ request.event _ _)) _ _
  rcases request.undoes with deletes | rolls
  · rw [deletes]
    unfold WorkflowEngine.messageEntry
    rw [carried_bind]
    refine meets_bind (meets_mono ?_ (meets_deleteWorkflow true working fun _ => deletes))
    intro ret deleted working
    rw [carried_bind]
    refine meets_bind (meets_mono ?_ (meets_result ret _ working))
    intro _ answered calm
    rw [carried_bind]
    refine meets_bind (meets_mono ?_ (meets_wakeup _ _ calm))
    exact fun _ _ calm => meets_ret calm
  · rw [rolls]
    unfold WorkflowEngine.messageEntry
    rw [carried_bind]
    refine meets_bind (meets_mono ?_ (meets_rollback _ working))
    intro ret deleted working
    rw [carried_bind]
    refine meets_bind (meets_mono ?_ (meets_result ret _ working))
    intro _ answered calm
    rw [carried_bind]
    refine meets_bind (meets_mono ?_ (meets_wakeup _ _ calm))
    exact fun _ _ calm => meets_ret calm

theorem meets_mutexLocked {α : Type} {p : Locking α} {P : α → Caller → Prop}
    (calm : Calm depth own)
    (inside : ∀ own, Calm (depth + 1) own → Meets env thread p
      (fun value later => Calm (depth + 1) later ∧
        ∀ last : Caller, Calm depth last →
          (0 < depth → last.unlocked = later.unlocked) → P value last) own) :
    Meets env thread (mutexLocked p) (fun value later => Calm depth later ∧ P value later)
      own := by
  refine meets_call trivial fun shared reply shared' own' answered => ?_
  obtain ⟨-, -, rfl⟩ := answered
  have locked : Calm (depth + 1) { own with depth := own.depth + 1 } :=
    ⟨congrArg (· + 1) calm.depth_eq, calm.sent, calm.handling, calm.closed⟩
  refine meets_bind (p := p) (meets_mono ?_ (inside _ locked))
  rintro value later ⟨calm', held⟩
  refine meets_call ⟨by rw [calm'.depth_eq]; omega, calm'.sent⟩
    fun shared reply shared' own' answered => ?_
  obtain ⟨-, rfl⟩ := answered
  have unlocked : Calm depth { later with
      depth := later.depth - 1
      unlocked := if later.depth = 1 then none else later.unlocked } :=
    ⟨by rw [calm'.depth_eq]; rfl, calm'.sent, calm'.handling, calm'.closed⟩
  refine meets_ret ⟨unlocked, held _ unlocked fun on => if_neg ?_⟩
  rw [calm'.depth_eq]
  omega

theorem meets_isLockWorkflow (workflowId : String) (calm : Calm (depth + 1) own) :
    Meets env thread (isLockWorkflow workflowId) (fun locked later => Calm (depth + 1) later ∧
      (locked = false → later.unlocked = some workflowId)) own := by
  refine meets_mutexLocked calm fun own calm => ?_
  refine meets_perform ⟨by rw [calm.depth_eq]; omega, calm.sent⟩
    fun shared locked shared' own' answered => ?_
  obtain ⟨-, -, rfl⟩ := answered
  refine ⟨⟨calm.depth_eq, calm.sent, calm.handling, calm.closed⟩, fun last _ same free => ?_⟩
  rw [same (Nat.succ_pos depth)]
  show (if locked = true then none else some workflowId) = some workflowId
  rw [free]
  rfl

theorem meets_request (stem : String) (engine : Int) (event : EngineEvent)
    (undoes : event = .deleteWorkflow ∨ event = .rollbackWorkflow) (workflowId : String)
    (calm : Calm (depth + 1) own) (unlocked : own.unlocked = some workflowId) :
    Meets env thread (request stem engine event undoes workflowId) (fun _ => Calm (depth + 1))
      own := by
  refine meets_call trivial fun shared unit shared' own' answered => ?_
  obtain ⟨-, rfl⟩ := answered
  refine meets_call ⟨by rw [calm.depth_eq]; omega, calm.sent, unlocked⟩
    fun shared reply shared' own' answered => ?_
  obtain ⟨-, rfl⟩ := answered
  refine meets_perform trivial fun shared reply shared' own' answered => ?_
  obtain ⟨-, -, rfl⟩ := answered
  exact ⟨calm.depth_eq, rfl, calm.handling, calm.closed⟩

theorem meets_locked {α : Type} {p : Locking α} (calm : Calm 0 own)
    (inside : ∀ own, Calm 1 own → Meets env thread p (fun _ => Calm 1) own) :
    Meets env thread (mutexLocked p) (fun _ => Calm 0) own :=
  meets_mono (fun _ _ both => both.1)
    (meets_mutexLocked (P := fun _ _ => True) calm fun own calm =>
      meets_mono (fun _ _ calm => ⟨calm, fun _ _ _ => trivial⟩) (inside own calm))

theorem meets_lockWorkflow (actionId : String) (calm : Calm 0 own) :
    Meets env thread (lockWorkflow actionId) (fun _ => Calm 0) own := by
  refine meets_locked calm fun own calm => ?_
  refine meets_bind (meets_mono ?_ (meets_reads (reads_getWorkflow actionId)))
  intro found later grown
  have calm := calm.grown grown
  cases found with
  | error => exact meets_ret calm
  | ok workflowId =>
      refine meets_call ⟨by rw [calm.depth_eq]; omega, calm.sent⟩
        fun shared reply shared' own' answered => ?_
      obtain ⟨-, rfl⟩ := answered
      exact meets_ret ⟨calm.depth_eq, calm.sent, calm.handling, calm.closed⟩

theorem meets_unlockWorkflow (actionId : String) (calm : Calm 0 own) :
    Meets env thread (unlockWorkflow actionId) (fun _ => Calm 0) own := by
  refine meets_locked calm fun own calm => ?_
  refine meets_bind (meets_mono ?_ (meets_reads (reads_getWorkflow actionId)))
  intro found later grown
  have calm := calm.grown grown
  cases found with
  | error => exact meets_ret calm
  | ok workflowId =>
      refine meets_call ⟨by rw [calm.depth_eq]; omega, calm.sent⟩
        fun shared reply shared' own' answered => ?_
      obtain ⟨-, rfl⟩ := answered
      exact meets_ret ⟨calm.depth_eq, calm.sent, calm.handling, calm.closed⟩

theorem meets_deleteRequest (actionId : String) (calm : Calm 0 own) :
    Meets env thread (deleteWorkflow env actionId) (fun _ => Calm 0) own := by
  refine meets_locked calm fun own calm => ?_
  unfold Tecs.deleteWorkflow
  rw [carried_bind]
  refine meets_bind (meets_mono ?_ (meets_reads (reads_getWorkflowAndEngine env actionId)))
  intro found later grown
  have calm := calm.grown grown
  cases found with
  | error => exact meets_ret calm
  | ok address =>
      show Meets env thread (carried (Pool.isLockWorkflow _ >>= _)) _ _
      rw [carried_bind]
      refine meets_bind (meets_mono ?_ (meets_isLockWorkflow address.1 calm))
      rintro locked last ⟨calm, unlocked⟩
      cases locked with
      | true => exact meets_ret calm
      | false => exact meets_request _ _ _ _ _ calm (unlocked rfl)

theorem meets_rollbackRequest (actionId : String) (calm : Calm 0 own) :
    Meets env thread (rollbackWorkflow env actionId) (fun _ => Calm 0) own := by
  refine meets_locked calm fun own calm => ?_
  unfold Tecs.rollbackWorkflow
  rw [carried_bind]
  refine meets_bind (meets_mono ?_ (meets_reads (reads_getWorkflowAndEngine env actionId)))
  intro found later grown
  have calm := calm.grown grown
  cases found with
  | error => exact meets_ret calm
  | ok address =>
      show Meets env thread (carried (Pool.isLockWorkflow _ >>= _)) _ _
      rw [carried_bind]
      refine meets_bind (meets_mono ?_ (meets_isLockWorkflow address.1 calm))
      rintro locked last ⟨calm, unlocked⟩
      cases locked with
      | true => exact meets_ret calm
      | false =>
          show Meets env thread (carried (getRollbackWorkflow _ >>= _)) _ _
          rw [carried_bind]
          refine meets_bind (meets_mono ?_ (meets_reads (reads_getRollbackWorkflow _)))
          intro rollbackWorkflowId final grown
          have unlocked : final.unlocked = some address.1 := by
            obtain ⟨more, -, rfl⟩ := grown
            exact unlocked rfl
          have calm := calm.grown grown
          by_cases none : (rollbackWorkflowId == "") = true
          · simp only [if_pos none]
            exact meets_ret calm
          · simp only [if_neg none]
            exact meets_request _ _ _ _ _ calm unlocked

theorem meets_program (operation : Operation) (calm : Calm 0 own) :
    Meets env thread (program env operation) (fun _ => Calm 0) own := by
  cases operation with
  | lock actionId =>
      exact meets_bind (meets_mono (fun _ _ calm => meets_ret calm)
        (meets_lockWorkflow actionId calm))
  | unlock actionId =>
      exact meets_bind (meets_mono (fun _ _ calm => meets_ret calm)
        (meets_unlockWorkflow actionId calm))
  | delete actionId =>
      exact meets_bind (meets_mono (fun _ _ calm => meets_ret calm)
        (meets_deleteRequest actionId calm))
  | rollback actionId =>
      exact meets_bind (meets_mono (fun _ _ calm => meets_ret calm)
        (meets_rollbackRequest actionId calm))
  | handle index => exact meets_handle index calm
  | others => exact meets_ret calm

end Users

theorem machine_sound (env : Process) (Thread : Type) [DecidableEq Thread] :
    (machine env Thread).Sound (fun _ _ _ _ => True) (fun _ _ => True)
      (fun _ c _ own => Asserts own c) (fun _ _ => Calm 0) (fun _ => True) False where
  reflexive := fun _ => trivial
  transitive := fun _ _ _ _ _ => trivial
  stable := fun _ _ _ _ calm _ => calm
  guarantee := fun _ _ _ _ _ _ _ _ _ => trivial
  entering := fun _ _ _ _ _ => trivial
  booting := False.elim
  outline := by
    intro thread operation shared own _ calm
    have same : ((machine env Thread).enter thread operation shared own).2 = own := by
      cases operation <;> rfl
    rw [same]
    exact meets_program operation calm _

end WorkflowLock

end Tecs
