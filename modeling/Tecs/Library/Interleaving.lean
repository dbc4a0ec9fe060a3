import Tecs.Library.Program
import Tecs.Library.Run

set_option autoImplicit false

namespace Effect

/-- Threads that run programs one after the other over one shared state. `enter`
records the start of an operation in the history variables. -/
structure Machine (S : Signature) (Shared Local Thread Operation : Type) where
  program : Thread → Operation → Program S Unit
  boot : Thread → Local
  enter : Thread → Operation → Shared → Local → Shared × Local
  answers : Thread → (c : S.Call) → Shared → Local → S.Reply c → Shared → Local → Prop

namespace Machine

variable {S : Signature} {Shared Local Thread Operation : Type}

structure State (S : Signature) (Shared Local Thread : Type) where
  shared : Shared
  own : Thread → Local
  running : Thread → Option (Program S Unit)

inductive Label (S : Signature) (Thread Operation : Type)
  | start (thread : Thread) (operation : Operation)
  | call (thread : Thread) (c : S.Call)
  | finish (thread : Thread)
  | crash (thread : Thread)

variable [DecidableEq Thread] (M : Machine S Shared Local Thread Operation)

/-- One thread moves: an idle one starts an operation, a running one has its next
call answered, returns, or loses all it knew and was doing. -/
inductive Step : State S Shared Local Thread → Label S Thread Operation →
    State S Shared Local Thread → Prop
  | start {state : State S Shared Local Thread} (thread : Thread) (operation : Operation)
      (idle : state.running thread = none) :
      Step state (.start thread operation)
        { shared := (M.enter thread operation state.shared (state.own thread)).1
          own := Function.update state.own thread
            (M.enter thread operation state.shared (state.own thread)).2
          running := Function.update state.running thread
            (some (M.program thread operation)) }
  | call {state : State S Shared Local Thread} (thread : Thread) (c : S.Call)
      (next : S.Reply c → Program S Unit) (running : state.running thread = some (.call c next))
      (reply : S.Reply c) (shared : Shared) (own : Local)
      (answered : M.answers thread c state.shared (state.own thread) reply shared own) :
      Step state (.call thread c)
        { shared := shared
          own := Function.update state.own thread own
          running := Function.update state.running thread (some (next reply)) }
  | finish {state : State S Shared Local Thread} (thread : Thread)
      (returned : state.running thread = some (.ret ())) :
      Step state (.finish thread)
        { state with running := Function.update state.running thread none }
  | crash {state : State S Shared Local Thread} (thread : Thread) :
      Step state (.crash thread)
        { state with
          own := Function.update state.own thread (M.boot thread)
          running := Function.update state.running thread none }

abbrev Run := Transition.Run M.Step

/-! Rely and guarantee. `permits` is what a run is restricted to, `idle` what a
thread maintains between two operations. -/

section Reasoning

variable (permits : Thread → S.Call → Shared → Local → Prop)
variable (rely : Shared → Shared → Prop)
variable (asserts : Thread → S.Call → Shared → Local → Prop)
variable (idle : Thread → Shared → Local → Prop)

/-- The answers a thread gets in a permitted step. -/
def Permitted (thread : Thread) (c : S.Call) (shared : Shared) (own : Local) (reply : S.Reply c)
    (after : Shared) (own' : Local) : Prop :=
  permits thread c shared own ∧ M.answers thread c shared own reply after own'

/-- The proof outline of one operation: from the idle state back to the idle state. -/
def Outline (thread : Thread) (p : Program S Unit) (shared : Shared) (own : Local) : Prop :=
  p.Meets (M.Permitted permits thread) rely (asserts thread) (fun _ => idle thread) shared own

/-- What one must show of the steps and of the programs. -/
structure Sound (offered : Operation → Prop) (crashes : Prop) : Prop where
  reflexive : ∀ shared, rely shared shared
  transitive : ∀ a b c, rely a b → rely b c → rely a c
  stable : ∀ thread shared later own, idle thread shared own → rely shared later →
    idle thread later own
  guarantee : ∀ thread c shared own reply after own', asserts thread c shared own →
    M.Permitted permits thread c shared own reply after own' → rely shared after
  entering : ∀ thread operation shared own, offered operation →
    rely shared (M.enter thread operation shared own).1
  booting : crashes → ∀ thread shared, idle thread shared (M.boot thread)
  outline : ∀ thread operation shared own, offered operation → idle thread shared own →
    M.Outline permits rely asserts idle thread (M.program thread operation)
      (M.enter thread operation shared own).1 (M.enter thread operation shared own).2

/-- A thread between operations maintains `idle`, a running one has an outline of the
rest of its operation. -/
def InOrder (thread : Thread) : Option (Program S Unit) → Shared → Local → Prop
  | none, shared, own => idle thread shared own
  | some p, shared, own => M.Outline permits rely asserts idle thread p shared own

def Proper (state : State S Shared Local Thread) : Prop :=
  ∀ thread, M.InOrder permits rely asserts idle thread (state.running thread) state.shared
    (state.own thread)

/-- The steps a guarded run takes: offered operations start, permitted calls are made. -/
def Allows (offered : Operation → Prop) (crashes : Prop) (state : State S Shared Local Thread) :
    Label S Thread Operation → Prop
  | .start _ operation => offered operation
  | .call thread c => permits thread c state.shared (state.own thread)
  | .finish _ => True
  | .crash _ => crashes

variable {M permits rely asserts idle} {offered : Operation → Prop} {crashes : Prop}

omit [DecidableEq Thread] in
theorem Proper.idle_of {state : State S Shared Local Thread}
    (proper : M.Proper permits rely asserts idle state) {thread : Thread}
    (none : state.running thread = none) : idle thread state.shared (state.own thread) := by
  have here := proper thread
  rwa [none] at here

omit [DecidableEq Thread] in
theorem Proper.outline_of {state : State S Shared Local Thread}
    (proper : M.Proper permits rely asserts idle state) {thread : Thread}
    {p : Program S Unit} (running : state.running thread = some p) :
    M.Outline permits rely asserts idle thread p state.shared (state.own thread) := by
  have here := proper thread
  rwa [running] at here

theorem Proper.asserted (sound : M.Sound permits rely asserts idle offered crashes)
    {state after : State S Shared Local Thread} {thread : Thread} {c : S.Call}
    (proper : M.Proper permits rely asserts idle state)
    (taken : M.Step state (.call thread c) after) :
    asserts thread c state.shared (state.own thread) := by
  cases taken with
  | call _ _ next running reply shared own answered =>
      exact (proper.outline_of running _ (sound.reflexive _)).1

omit [DecidableEq Thread] in
/-- The other threads' outlines survive a step the rely condition covers. -/
theorem InOrder.frame (sound : M.Sound permits rely asserts idle offered crashes) {thread : Thread}
    {program : Option (Program S Unit)} {shared later : Shared} {own : Local}
    (inOrder : M.InOrder permits rely asserts idle thread program shared own)
    (moved : rely shared later) :
    M.InOrder permits rely asserts idle thread program later own := by
  cases program with
  | none => exact sound.stable _ _ _ _ inOrder moved
  | some p => exact Program.Meets.stable sound.transitive inOrder moved

private theorem proper_update (sound : M.Sound permits rely asserts idle offered crashes)
    {state : State S Shared Local Thread} (proper : M.Proper permits rely asserts idle state)
    {later : Shared} (moved : rely state.shared later) (thread : Thread) (own : Local)
    (program : Option (Program S Unit))
    (here : M.InOrder permits rely asserts idle thread program later own) :
    M.Proper permits rely asserts idle
      { shared := later
        own := Function.update state.own thread own
        running := Function.update state.running thread program } := by
  intro other
  by_cases same : other = thread
  · subst same
    simpa only [Function.update_self] using here
  · simpa only [Function.update_of_ne same] using (proper other).frame sound moved

theorem Proper.step (sound : M.Sound permits rely asserts idle offered crashes)
    {state after : State S Shared Local Thread} {label : Label S Thread Operation}
    (proper : M.Proper permits rely asserts idle state)
    (allowed : Allows permits offered crashes state label) (taken : M.Step state label after) :
    M.Proper permits rely asserts idle after := by
  cases taken with
  | start thread operation none =>
      exact proper_update sound proper (sound.entering _ _ _ _ allowed) thread _ (some _)
        (sound.outline _ _ _ _ allowed (proper.idle_of none))
  | call thread c next running reply shared own answered =>
      obtain ⟨asserted, continues⟩ := proper.outline_of running _ (sound.reflexive _)
      exact proper_update sound proper
        (sound.guarantee _ _ _ _ _ _ _ asserted ⟨allowed, answered⟩) thread _ (some _)
        (continues reply shared own ⟨allowed, answered⟩)
  | finish thread returned =>
      have ended := proper.outline_of returned _ (sound.reflexive _)
      have kept := proper_update sound proper (sound.reflexive _) thread _ none ended
      simpa only [Function.update_eq_self] using kept
  | crash thread =>
      exact proper_update sound proper (sound.reflexive _) thread _ none
        (sound.booting allowed thread _)

/-- A permitted step moves the shared state as the rely condition says. -/
theorem Proper.step_rely (sound : M.Sound permits rely asserts idle offered crashes)
    {state after : State S Shared Local Thread} {label : Label S Thread Operation}
    (proper : M.Proper permits rely asserts idle state)
    (allowed : Allows permits offered crashes state label) (taken : M.Step state label after) :
    rely state.shared after.shared := by
  cases taken with
  | start thread operation none => exact sound.entering _ _ _ _ allowed
  | call thread c next running reply shared own answered =>
      obtain ⟨asserted, -⟩ := proper.outline_of running _ (sound.reflexive _)
      exact sound.guarantee _ _ _ _ _ _ _ asserted ⟨allowed, answered⟩
  | finish => exact sound.reflexive _
  | crash => exact sound.reflexive _

/-- Along a guarded run from a state in order, every state is in order and the shared
state has moved as the rely condition says. -/
theorem Proper.run (sound : M.Sound permits rely asserts idle offered crashes)
    {first last : State S Shared Local Thread} {labels : List (Label S Thread Operation)}
    (proper : M.Proper permits rely asserts idle first)
    (run : Transition.Run (Transition.Guarded (Allows permits offered crashes) M.Step) first labels
      last) :
    M.Proper permits rely asserts idle last ∧ rely first.shared last.shared := by
  induction run with
  | refl => exact ⟨proper, sound.reflexive _⟩
  | snoc _ taken ih =>
      obtain ⟨inOrder, moved⟩ := ih
      exact ⟨inOrder.step sound taken.1 taken.2,
        sound.transitive _ _ _ moved (inOrder.step_rely sound taken.1 taken.2)⟩

end Reasoning

/-- An invariant of the shared state that every allowed call keeps. -/
theorem invariant_run {M : Machine S Shared Local Thread Operation} {P : Shared → Prop}
    {allowed : State S Shared Local Thread → Label S Thread Operation → Prop}
    (entering : ∀ thread operation shared own, P shared →
      P (M.enter thread operation shared own).1)
    (answering : ∀ (state : State S Shared Local Thread) thread c reply shared own,
      allowed state (.call thread c) → P state.shared →
      M.answers thread c state.shared (state.own thread) reply shared own → P shared)
    {first last : State S Shared Local Thread} {labels : List (Label S Thread Operation)}
    (run : Transition.Run (Transition.Guarded allowed M.Step) first labels last)
    (initial : P first.shared) : P last.shared := by
  refine Transition.Run.invariant (P := fun state => P state.shared) initial ?_ run
  intro before label after held taken
  obtain ⟨allows, step⟩ := taken
  cases step with
  | start thread operation idle => exact entering _ _ _ _ held
  | call thread c next running reply shared own answered =>
      exact answering before thread c reply shared own allows held answered
  | finish => exact held
  | crash => exact held

/-! Runs by evaluation, when the answers are a function; a call without one waits. -/

section Simulation

variable (answer : Thread → (c : S.Call) → Shared → Local → Option (S.Reply c × Shared × Local))

/-- What a scheduler chooses: which thread moves, and what an idle one starts. -/
inductive Move (Thread Operation : Type)
  | start (thread : Thread) (operation : Operation)
  | advance (thread : Thread)

def label : Move Thread Operation → State S Shared Local Thread → Option (Label S Thread Operation)
  | .start thread operation, _ => some (.start thread operation)
  | .advance thread, state =>
      match state.running thread with
      | none => none
      | some (.ret _) => some (.finish thread)
      | some (.call c _) => some (.call thread c)

def move (state : State S Shared Local Thread) :
    Move Thread Operation → Option (State S Shared Local Thread)
  | .start thread operation =>
      match state.running thread with
      | some _ => none
      | none =>
          some
            { shared := (M.enter thread operation state.shared (state.own thread)).1
              own := Function.update state.own thread
                (M.enter thread operation state.shared (state.own thread)).2
              running := Function.update state.running thread
                (some (M.program thread operation)) }
  | .advance thread =>
      match state.running thread with
      | none => none
      | some (.ret _) =>
          some { state with running := Function.update state.running thread none }
      | some (.call c next) =>
          (answer thread c state.shared (state.own thread)).map fun answered =>
            { shared := answered.2.1
              own := Function.update state.own thread answered.2.2
              running := Function.update state.running thread (some (next answered.1)) }

variable (allowed : State S Shared Local Thread → Label S Thread Operation → Prop)
  [∀ state taken, Decidable (allowed state taken)]

/-- Moves that are possible and allowed, one after the other. -/
def moves (state : State S Shared Local Thread) :
    List (Move Thread Operation) → Option (State S Shared Local Thread)
  | [] => some state
  | first :: rest =>
      match label first state with
      | none => none
      | some taken =>
          if allowed state taken then
            (M.move answer state first).bind fun next => moves next rest
          else none

variable {M answer}

theorem step_of_move
    (answers : ∀ thread c shared own answered, answer thread c shared own = some answered →
      M.answers thread c shared own answered.1 answered.2.1 answered.2.2)
    {state next : State S Shared Local Thread} {choice : Move Thread Operation}
    (moved : M.move answer state choice = some next) :
    ∃ taken, label choice state = some taken ∧ M.Step state taken next := by
  cases choice with
  | start thread operation =>
      simp only [move] at moved
      split at moved
      · cases moved
      · rename_i none
        cases moved
        exact ⟨_, rfl, .start thread operation none⟩
  | advance thread =>
      simp only [move] at moved
      split at moved
      · cases moved
      · rename_i returned
        cases moved
        exact ⟨.finish thread, by simp only [label, returned], .finish thread returned⟩
      · rename_i c next running
        obtain ⟨answered, served, rfl⟩ := Option.map_eq_some_iff.mp moved
        exact ⟨.call thread c, by simp only [label, running],
          .call thread c next running _ _ _ (answers _ _ _ _ _ served)⟩

theorem run_of_moves
    (answers : ∀ thread c shared own answered, answer thread c shared own = some answered →
      M.answers thread c shared own answered.1 answered.2.1 answered.2.2)
    {allowed : State S Shared Local Thread → Label S Thread Operation → Prop}
    [∀ state taken, Decidable (allowed state taken)]
    {choices : List (Move Thread Operation)} : ∀ {state last : State S Shared Local Thread},
      M.moves answer allowed state choices = some last →
        ∃ labels, Transition.Run (Transition.Guarded allowed M.Step) state labels last := by
  induction choices with
  | nil =>
      intro state last moved
      obtain rfl := Option.some.inj moved
      exact ⟨[], .refl⟩
  | cons first rest ih =>
      intro state last moved
      simp only [moves] at moved
      split at moved
      · cases moved
      · rename_i taken labelled
        split at moved
        · rename_i permitted
          obtain ⟨next, front, back⟩ := Option.bind_eq_some_iff.mp moved
          obtain ⟨taken', labelled', step⟩ := step_of_move answers front
          obtain rfl := Option.some.inj (labelled.symm.trans labelled')
          obtain ⟨labels, run⟩ := ih back
          exact ⟨[taken] ++ labels, (Transition.Run.single ⟨permitted, step⟩).append run⟩
        · cases moved

end Simulation

end Machine

end Effect
