import Mathlib

set_option autoImplicit false

/-! Loops whose test may itself change the state: `while (set(s)) act(s)`. -/

namespace Loop

universe u

variable {State : Type u}

section Definitions

variable (test : State → Option (Bool × State)) (body : State → Option State)

/-- At most `bound` tests. There is no result where an assertion fails, or the bound is too low. -/
def rounds : ℕ → State → Option State
  | 0, _ => none
  | bound + 1, state =>
      match test state with
      | none => none
      | some (false, state) => some state
      | some (true, state) => (body state).bind (rounds bound)

end Definitions

section Rounds

variable {test : State → Option (Bool × State)} {body : State → Option State}
  {bound : ℕ} {state next last : State}

theorem rounds_stop (stopped : test state = some (false, next)) :
    rounds test body (bound + 1) state = some next := by
  rw [rounds, stopped]

theorem rounds_again (again : test state = some (true, next)) (done : body next = some last) :
    rounds test body (bound + 1) state = rounds test body bound last := by
  rw [rounds, again]
  simp only [done, Option.bind_some]

end Rounds

end Loop
