import Mathlib

set_option autoImplicit false

namespace Effect

/-- The calls a program can make and the type of the reply to each. -/
structure Signature where
  Call : Type
  Reply : Call → Type

/-- A program has either returned, or it makes one call and goes on with the reply. -/
inductive Program (S : Signature) (α : Type) : Type
  | ret (value : α)
  | call (c : S.Call) (next : S.Reply c → Program S α)

namespace Program

variable {S : Signature} {α β γ : Type}

def bind : Program S α → (α → Program S β) → Program S β
  | .ret value, rest => rest value
  | .call c next, rest => .call c (fun reply => bind (next reply) rest)

instance : Monad (Program S) where
  pure := .ret
  bind := bind

@[simp] theorem pure_eq (value : α) : (pure value : Program S α) = .ret value := rfl

@[simp] theorem ret_bind (value : α) (rest : α → Program S β) :
    (Program.ret value >>= rest) = rest value := rfl

@[simp] theorem call_bind (c : S.Call) (next : S.Reply c → Program S α)
    (rest : α → Program S β) :
    (Program.call c next >>= rest) = .call c (fun reply => next reply >>= rest) := rfl

theorem bind_ret (p : Program S α) : (p >>= Program.ret) = p := by
  induction p with
  | ret => rfl
  | call c next ih => exact congrArg (Program.call c) (funext ih)

theorem bind_assoc (p : Program S α) (f : α → Program S β) (g : β → Program S γ) :
    (p >>= f) >>= g = p >>= fun value => f value >>= g := by
  induction p with
  | ret => rfl
  | call c next ih => exact congrArg (Program.call c) (funext ih)

instance : LawfulMonad (Program S) :=
  LawfulMonad.mk' (Program S) bind_ret (fun _ _ => rfl) bind_assoc

/-- Make one call and return its reply. -/
def perform (c : S.Call) : Program S (S.Reply c) := .call c .ret

@[simp] theorem perform_bind (c : S.Call) (rest : S.Reply c → Program S β) :
    (perform c >>= rest) = .call c rest := rfl

/-- The program with every call carried out by a program of another signature. -/
def translate {T : Signature} (carry : (c : S.Call) → Program T (S.Reply c)) :
    Program S α → Program T α
  | .ret value => .ret value
  | .call c next => carry c >>= fun reply => translate carry (next reply)

section Translate

variable {T : Signature} {carry : (c : S.Call) → Program T (S.Reply c)}

@[simp] theorem translate_ret (value : α) :
    translate carry (.ret value : Program S α) = .ret value := rfl

@[simp] theorem translate_call (c : S.Call) (next : S.Reply c → Program S α) :
    translate carry (.call c next) =
      carry c >>= fun reply => translate carry (next reply) := rfl

@[simp] theorem translate_perform (c : S.Call) :
    translate carry (perform c : Program S (S.Reply c)) = carry c :=
  bind_ret (carry c)

@[simp] theorem translate_bind (p : Program S α) (rest : α → Program S β) :
    translate carry (p >>= rest) =
      translate carry p >>= fun value => translate carry (rest value) := by
  induction p with
  | ret => rfl
  | call c next ih =>
      simp only [call_bind, translate_call, bind_assoc]
      exact congrArg (carry c >>= ·) (funext ih)

end Translate

/-! A program alone, every call answered by one function of the state. -/

section Sequential

variable {State : Type} (answer : (c : S.Call) → State → S.Reply c × State)

def exec : Program S α → State → α × State
  | .ret value, state => (value, state)
  | .call c next, state => exec (next (answer c state).1) (answer c state).2

/-- The calls made, in order. -/
def calls : Program S α → State → List S.Call
  | .ret _, _ => []
  | .call c next, state => c :: calls (next (answer c state).1) (answer c state).2

@[simp] theorem exec_ret (value : α) (state : State) :
    exec answer (Program.ret value) state = (value, state) := rfl

@[simp] theorem exec_call (c : S.Call) (next : S.Reply c → Program S α) (state : State) :
    exec answer (.call c next) state =
      exec answer (next (answer c state).1) (answer c state).2 := rfl

@[simp] theorem calls_ret (value : α) (state : State) :
    calls answer (Program.ret value) state = [] := rfl

@[simp] theorem calls_call (c : S.Call) (next : S.Reply c → Program S α) (state : State) :
    calls answer (.call c next) state =
      c :: calls answer (next (answer c state).1) (answer c state).2 := rfl

theorem exec_bind (p : Program S α) (rest : α → Program S β) (state : State) :
    exec answer (p >>= rest) state =
      exec answer (rest (exec answer p state).1) (exec answer p state).2 := by
  induction p generalizing state with
  | ret => rfl
  | call c next ih => exact ih _ _

theorem calls_bind (p : Program S α) (rest : α → Program S β) (state : State) :
    calls answer (p >>= rest) state =
      calls answer p state ++
        calls answer (rest (exec answer p state).1) (exec answer p state).2 := by
  induction p generalizing state with
  | ret => rfl
  | call c next ih => exact congrArg (c :: ·) (ih _ _)

end Sequential

/-! The calls a program can make, whatever the replies. -/

def Makes (allowed : S.Call → Prop) : Program S α → Prop
  | .ret _ => True
  | .call c next => allowed c ∧ ∀ reply, Makes allowed (next reply)

section Makes

variable {allowed wider : S.Call → Prop}

@[simp] theorem makes_ret (value : α) : Makes allowed (.ret value : Program S α) := trivial

@[simp] theorem makes_call (c : S.Call) (next : S.Reply c → Program S α) :
    Makes allowed (.call c next) ↔ allowed c ∧ ∀ reply, Makes allowed (next reply) := Iff.rfl

@[simp] theorem makes_perform (c : S.Call) : Makes allowed (perform c) ↔ allowed c :=
  ⟨fun makes => makes.1, fun permitted => ⟨permitted, fun _ => trivial⟩⟩

theorem Makes.bind {p : Program S α} {rest : α → Program S β} (first : Makes allowed p)
    (then_ : ∀ value, Makes allowed (rest value)) : Makes allowed (p >>= rest) := by
  induction p with
  | ret value => exact then_ value
  | call c next ih => exact ⟨first.1, fun reply => ih reply (first.2 reply)⟩

theorem Makes.mono (weaken : ∀ c, allowed c → wider c) {p : Program S α}
    (makes : Makes allowed p) : Makes wider p := by
  induction p with
  | ret value => trivial
  | call c next ih => exact ⟨weaken c makes.1, fun reply => ih reply (makes.2 reply)⟩

theorem Makes.of_mem_calls {State : Type} {answer : (c : S.Call) → State → S.Reply c × State}
    {p : Program S α} (makes : Makes allowed p) : ∀ {state : State} {c : S.Call},
      c ∈ calls answer p state → allowed c := by
  induction p with
  | ret value => exact fun none => absurd none List.not_mem_nil
  | call c next ih =>
      intro state made inside
      rcases List.mem_cons.mp inside with rfl | inside
      · exact makes.1
      · exact ih _ (makes.2 _) inside

end Makes

/-! A program among others: between two of its calls the shared state moves by
any step of `rely`, its local state does not. -/

section Interference

variable {Shared Local : Type}
variable (answers : (c : S.Call) → Shared → Local → S.Reply c → Shared → Local → Prop)
variable (rely : Shared → Shared → Prop)
variable (asserts : S.Call → Shared → Local → Prop)

/-- Every call is made in a state that satisfies its assertion, and the value
returned satisfies the postcondition, whatever the other programs do. -/
def Meets (post : α → Shared → Local → Prop) : Program S α → Shared → Local → Prop
  | .ret value, shared, own => ∀ later, rely shared later → post value later own
  | .call c next, shared, own => ∀ later, rely shared later →
      asserts c later own ∧
        ∀ reply after own', answers c later own reply after own' →
          Meets post (next reply) after own'

variable {answers rely asserts}

theorem Meets.stable (transitive : ∀ a b c, rely a b → rely b c → rely a c)
    {post : α → Shared → Local → Prop} {p : Program S α} {shared later : Shared} {own : Local}
    (meets : Meets answers rely asserts post p shared own) (moved : rely shared later) :
    Meets answers rely asserts post p later own := by
  cases p with
  | ret value => exact fun last next => meets last (transitive _ _ _ moved next)
  | call c next => exact fun last step => meets last (transitive _ _ _ moved step)

theorem Meets.mono {post weaker : α → Shared → Local → Prop}
    (weaken : ∀ value shared own, post value shared own → weaker value shared own)
    {p : Program S α} : ∀ {shared : Shared} {own : Local},
      Meets answers rely asserts post p shared own →
        Meets answers rely asserts weaker p shared own := by
  induction p with
  | ret value =>
      intro shared own meets later moved
      exact weaken value later own (meets later moved)
  | call c next ih =>
      intro shared own meets later moved
      obtain ⟨asserted, continues⟩ := meets later moved
      exact ⟨asserted, fun reply after own' answered =>
        ih reply (continues reply after own' answered)⟩

/-- Sequencing: the rest starts wherever the first part's postcondition leaves it. -/
theorem Meets.bind (reflexive : ∀ a, rely a a) {post : β → Shared → Local → Prop}
    {rest : α → Program S β} {p : Program S α} : ∀ {shared : Shared} {own : Local},
      Meets answers rely asserts
          (fun value later own' => Meets answers rely asserts post (rest value) later own')
          p shared own →
        Meets answers rely asserts post (p >>= rest) shared own := by
  induction p with
  | ret value =>
      intro shared own meets
      exact meets shared (reflexive shared)
  | call c next ih =>
      intro shared own meets later moved
      obtain ⟨asserted, continues⟩ := meets later moved
      exact ⟨asserted, fun reply after own' answered =>
        ih reply (continues reply after own' answered)⟩

/-- A program whose calls all maintain an invariant. -/
theorem Meets.of_makes {allowed : S.Call → Prop} {holds : Shared → Local → Prop}
    (stable : ∀ shared later own, holds shared own → rely shared later → holds later own)
    (asserted : ∀ c shared own, allowed c → holds shared own → asserts c shared own)
    (kept : ∀ c shared own reply after own', allowed c → holds shared own →
      answers c shared own reply after own' → holds after own')
    {p : Program S α} (makes : Makes allowed p) : ∀ {shared : Shared} {own : Local},
      holds shared own →
        Meets answers rely asserts (fun _ => holds) p shared own := by
  induction p with
  | ret value =>
      intro shared own held later moved
      exact stable _ _ _ held moved
  | call c next ih =>
      intro shared own held later moved
      have here := stable _ _ _ held moved
      refine ⟨asserted c later own makes.1 here, fun reply after own' answered => ?_⟩
      exact ih reply (makes.2 reply) (kept c _ _ _ _ _ makes.1 here answered)

end Interference

end Program

end Effect
