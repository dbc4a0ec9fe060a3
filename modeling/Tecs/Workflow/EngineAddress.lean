import Tecs.Workflow.PoolQuiet

set_option autoImplicit false

namespace Tecs

open Effect Program

/-- The element of `engines` a call goes to. -/
def PoolCall.engineIndex : PoolCall → Option Int
  | .wakeup engine _ => some engine
  | .request engine _ _ => some engine
  | _ => none

theorem PoolCall.Inner.engineIndex {c : PoolCall} (inner : c.Inner) : c.engineIndex = none := by
  cases c with
  | wakeup => exact False.elim inner
  | request => exact False.elim inner
  | _ => rfl

/-- The elements of `engines` a function goes to, in order. -/
def engines {α State : Type} (answer : (c : PoolCall) → State → c.Reply × State) (p : Pool α)
    (state : State) : List Int :=
  (p.calls (S := pool) answer state).filterMap PoolCall.engineIndex

/-! Calls that go to no engine, and functions that go to one engine at most. -/

def Unaddressed {α : Type} (p : Pool α) : Prop :=
  p.Makes (S := pool) fun c => c.engineIndex = none

theorem unaddressed_of_inner {α : Type} {p : Pool α} (inner : Inner p) : Unaddressed p :=
  Makes.mono (fun _ => PoolCall.Inner.engineIndex) inner

theorem unaddressed_isLockWorkflow (id : String) : Unaddressed (Pool.isLockWorkflow id) :=
  ⟨rfl, fun _ => trivial⟩

section Engines

variable {State : Type} {answer : (c : PoolCall) → State → c.Reply × State} {state : State}

theorem engines_unaddressed {α : Type} {p : Pool α} (unaddressed : Unaddressed p) :
    engines answer p state = [] :=
  List.filterMap_eq_nil_iff.mpr fun _ made => Makes.of_mem_calls unaddressed made

theorem engines_bind {α β : Type} {p : Pool α} {rest : α → Pool β}
    (unaddressed : Unaddressed p) :
    engines answer (p >>= rest) state =
      engines answer (rest (p.exec (S := pool) answer state).1)
        (p.exec (S := pool) answer state).2 := by
  have front : engines answer p state = [] := engines_unaddressed unaddressed
  unfold engines at front ⊢
  rw [calls_bind, List.filterMap_append, front, List.nil_append]

theorem engines_request (index : Int) (event : EngineEvent) (workflowId : String) :
    engines answer (Pool.request index event workflowId) state = [index] := rfl

theorem engines_wakeupEngine (env : Process) (index : Int) (workflowId : String) :
    engines answer (wakeupEngine env index workflowId) state =
      if index < 0 ∨ index > env.numberOfEngines then [] else [index] := by
  unfold wakeupEngine
  split <;> rfl

variable {destination : Int}

/-- The function goes to this engine or to none. -/
def Toward {α : Type} (answer : (c : PoolCall) → State → c.Reply × State) (p : Pool α)
    (state : State) (destination : Int) : Prop :=
  ∀ index ∈ engines answer p state, index = destination

theorem toward_inner {α : Type} {p : Pool α} (inner : Inner p) :
    Toward answer p state destination := by
  unfold Toward
  rw [engines_unaddressed (unaddressed_of_inner inner)]
  exact fun index none => absurd none List.not_mem_nil

theorem toward_bind {α β : Type} {p : Pool α} {rest : α → Pool β} (unaddressed : Unaddressed p)
    (toward : Toward answer (rest (p.exec (S := pool) answer state).1)
      (p.exec (S := pool) answer state).2 destination) :
    Toward answer (p >>= rest) state destination := by
  unfold Toward
  rw [engines_bind unaddressed]
  exact toward

theorem toward_wakeupEngine {env : Process} {index : Int} {workflowId : String}
    (known : 0 ≤ index → index = destination) :
    Toward answer (wakeupEngine env index workflowId) state destination := by
  unfold Toward
  rw [engines_wakeupEngine]
  split
  · exact fun index none => absurd none List.not_mem_nil
  · intro other only
    rw [List.mem_singleton.mp only]
    exact known (by omega)

theorem toward_request {event : EngineEvent} {workflowId : String} :
    Toward answer (Pool.request destination event workflowId) state destination :=
  fun _ only => List.mem_singleton.mp only

end Engines

end Tecs
