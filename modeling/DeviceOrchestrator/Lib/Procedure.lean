import Mathlib.Data.List.Basic

/-!
# Procedures with a state and errors

A `Procedure` reads and changes a state, and returns a value or raises. `start` says how it ends
and which state it leaves. `Yields` is about the end alone, wherever the procedure starts; `Moves`
is about the states alone, and its rules carry a relation that is reflexive and transitive over a
whole procedure. `Ends` is about both: a triple with one postcondition for a value and one for an
error. `script` is the loop that takes the steps of a list in order.
-/

universe u v

/-- A procedure with a state and errors. -/
abbrev Procedure (State Error Value : Type u) := ExceptT Error (StateM State) Value

namespace Procedure

variable {State Error Value Next : Type u} {Step : Type v} {state : State}

/-- How a procedure ends when it starts in a state, and the state it leaves. -/
def start (procedure : Procedure State Error Value) (state : State) :
    Except Error Value × State :=
  procedure.run.run state

/-- A procedure given by what it does to a state. -/
def act (turn : State → Except Error Value × State) : Procedure State Error Value :=
  ExceptT.mk turn

/-- A result that needs no state. -/
def lift (result : Except Error Value) : Procedure State Error Value :=
  act fun state => (result, state)

/-- Take the steps of a script in order; the first of them has the given number. -/
def script (turn : Nat → Value → Step → Procedure State Error Value) :
    Nat → Value → List Step → Procedure State Error Value
  | _, value, [] => pure value
  | number, value, step :: rest => do
    let value ← turn number value step
    script turn (number + 1) value rest

@[simp]
theorem start_act (turn : State → Except Error Value × State) :
    (act turn).start state = turn state := rfl

@[simp]
theorem start_lift (result : Except Error Value) :
    (lift result : Procedure State Error Value).start state = (result, state) := rfl

@[simp]
theorem start_pure (value : Value) :
    (pure value : Procedure State Error Value).start state = (.ok value, state) := rfl

/-- What follows a procedure that returns starts where that ended. -/
theorem start_bind (first : Procedure State Error Value)
    (next : Value → Procedure State Error Next) :
    (first >>= next).start state = match first.start state with
      | (.ok value, after) => (next value).start after
      | (.error error, after) => (.error error, after) := by
  simp only [start, ExceptT.run_bind, StateT.run_bind]
  generalize first.run.run state = ended
  obtain ⟨answer, after⟩ := ended
  cases answer <;> rfl

/-- A sequence that returned had a first procedure that returned. -/
theorem bind_returned {first : Procedure State Error Value}
    {next : Value → Procedure State Error Next} {result : Next} {after : State}
    (returned : (first >>= next).start state = (.ok result, after)) :
    ∃ value between, first.start state = (.ok value, between) ∧
      (next value).start between = (.ok result, after) := by
  rw [start_bind] at returned
  generalize first.start state = ended at returned ⊢
  obtain ⟨answer, between⟩ := ended
  cases answer with
  | ok value => exact ⟨value, between, rfl, returned⟩
  | error error => cases returned

/-- A handler starts where the procedure raised. -/
theorem start_tryCatch (body : Procedure State Error Value)
    (handler : Error → Procedure State Error Value) :
    (tryCatch body handler).start state = match body.start state with
      | (.ok value, after) => (.ok value, after)
      | (.error error, after) => (handler error).start after := by
  simp only [start, ExceptT.run_tryCatch, StateT.run_bind]
  generalize body.run.run state = ended
  obtain ⟨answer, after⟩ := ended
  cases answer <;> rfl

/-- A procedure ends with a result, wherever it starts. -/
def Yields (procedure : Procedure State Error Value) (result : Except Error Value) : Prop :=
  ∀ state, (procedure.start state).1 = result

namespace Yields

variable {first : Procedure State Error Value} {value : Value} {error : Error}

/-- A value is what it yields. -/
theorem pure (value : Value) : (Pure.pure value : Procedure State Error Value).Yields (.ok value) :=
  fun _ => rfl

/-- A result that needs no state is what it yields. -/
theorem lift (result : Except Error Value) :
    (Procedure.lift result : Procedure State Error Value).Yields result :=
  fun _ => rfl

/-- A sequence whose first procedure returns. -/
theorem bind {next : Value → Procedure State Error Next} {result : Except Error Next}
    (begins : first.Yields (.ok value)) (follows : (next value).Yields result) :
    (first >>= next).Yields result := by
  intro state
  have began := begins state
  rw [start_bind]
  generalize first.start state = ended at began ⊢
  obtain ⟨answer, after⟩ := ended
  obtain rfl : answer = .ok value := began
  exact follows after

/-- A sequence whose first procedure raises. -/
theorem bind_error {next : Value → Procedure State Error Next}
    (begins : first.Yields (.error error)) : (first >>= next).Yields (.error error) := by
  intro state
  have began := begins state
  rw [start_bind]
  generalize first.start state = ended at began ⊢
  obtain ⟨answer, after⟩ := ended
  obtain rfl : answer = .error error := began
  rfl

/-- A handler is not asked where the procedure returns. -/
theorem tryCatch {handler : Error → Procedure State Error Value}
    (body : first.Yields (.ok value)) :
    (MonadExcept.tryCatch first handler).Yields (.ok value) := by
  intro state
  have began := body state
  rw [start_tryCatch]
  generalize first.start state = ended at began ⊢
  obtain ⟨answer, after⟩ := ended
  obtain rfl : answer = .ok value := began
  rfl

/-- A handler ends what raises. -/
theorem tryCatch_error {handler : Error → Procedure State Error Value}
    {result : Except Error Value} (body : first.Yields (.error error))
    (handles : (handler error).Yields result) :
    (MonadExcept.tryCatch first handler).Yields result := by
  intro state
  have began := body state
  rw [start_tryCatch]
  generalize first.start state = ended at began ⊢
  obtain ⟨answer, after⟩ := ended
  obtain rfl : answer = .error error := began
  exact handles after

end Yields

/-- Every start of a procedure is related to the state it leaves. -/
def Moves (relation : State → State → Prop) (procedure : Procedure State Error Value) : Prop :=
  ∀ state, relation state (procedure.start state).2

namespace Moves

variable {relation : State → State → Prop} {first : Procedure State Error Value}

/-- The sequence rule from one state. -/
theorem bind_at (trans : ∀ {one two three}, relation one two → relation two three →
      relation one three) {next : Value → Procedure State Error Next}
    (begins : relation state (first.start state).2)
    (follows : ∀ value, (next value).Moves relation) :
    relation state ((first >>= next).start state).2 := by
  rw [start_bind]
  generalize first.start state = ended at begins ⊢
  obtain ⟨answer, after⟩ := ended
  cases answer with
  | ok value => exact trans begins (follows value after)
  | error error => exact begins

/-- **Sequence rule.** -/
theorem bind (trans : ∀ {one two three}, relation one two → relation two three →
      relation one three) {next : Value → Procedure State Error Next}
    (begins : first.Moves relation) (follows : ∀ value, (next value).Moves relation) :
    (first >>= next).Moves relation := by
  intro state
  refine bind_at ?_ (begins state) follows
  exact trans

/-- The sequence rule after a result that needs no state. -/
theorem lift_bind (refl : ∀ state, relation state state) {result : Except Error Value}
    {next : Value → Procedure State Error Next}
    (follows : ∀ value, result = .ok value → (next value).Moves relation) :
    (Procedure.lift result >>= next).Moves relation := by
  intro state
  rw [start_bind, start_lift]
  cases result with
  | ok value => exact follows value rfl state
  | error error => exact refl state

/-- **Branch rule.** -/
theorem ite {condition : Prop} [Decidable condition] {other : Procedure State Error Value}
    (yes : condition → first.Moves relation) (no : ¬condition → other.Moves relation) :
    (if condition then first else other).Moves relation := by
  split
  · rename_i holds
    exact yes holds
  · rename_i fails
    exact no fails

/-- **Handler rule**, for a handler that raises. -/
theorem tryCatch {handler : Error → Error} (body : first.Moves relation) :
    (MonadExcept.tryCatch first fun error => throw (handler error)).Moves relation := by
  intro state
  have began := body state
  rw [start_tryCatch]
  generalize first.start state = ended at began ⊢
  obtain ⟨answer, after⟩ := ended
  cases answer <;> exact began

end Moves

/-- A procedure that starts where `pre` holds returns where `post` does or raises where `raised`
does. -/
def Ends (pre : State → Prop) (post : Value → State → Prop) (raised : Error → State → Prop)
    (procedure : Procedure State Error Value) : Prop :=
  ∀ state, pre state → match procedure.start state with
    | (.ok value, after) => post value after
    | (.error error, after) => raised error after

namespace Ends

variable {pre : State → Prop} {raised : Error → State → Prop}
variable {first : Procedure State Error Value} {post : Value → State → Prop}

/-- A value is returned where the procedure starts. -/
theorem pure {value : Value} (holds : ∀ state, pre state → post value state) :
    (Pure.pure value : Procedure State Error Value).Ends pre post raised := fun state start => by
  simpa using holds state start

/-- An error is raised where the procedure starts. -/
theorem throw {error : Error} (holds : ∀ state, pre state → raised error state) :
    (MonadExcept.throw error : Procedure State Error Value).Ends pre post raised :=
  fun state start => holds state start

/-- A result that needs no state ends where it starts. -/
theorem lift {result : Except Error Value}
    (returns : ∀ value, result = .ok value → ∀ state, pre state → post value state)
    (raises : ∀ error, result = .error error → ∀ state, pre state → raised error state) :
    (Procedure.lift result).Ends pre post raised := by
  intro state start
  rw [start_lift]
  cases result with
  | ok value => exact returns value rfl state start
  | error error => exact raises error rfl state start

/-- **Sequence rule.** -/
theorem bind {next : Value → Procedure State Error Next} {last : Next → State → Prop}
    (begins : first.Ends pre post raised)
    (follows : ∀ value, (next value).Ends (post value) last raised) :
    (first >>= next).Ends pre last raised := by
  intro state start
  have began := begins state start
  rw [start_bind]
  generalize first.start state = ended at began ⊢
  obtain ⟨answer, after⟩ := ended
  cases answer with
  | ok value => exact follows value after began
  | error error => exact began

/-- **Branch rule.** -/
theorem ite {condition : Prop} [Decidable condition] {other : Procedure State Error Value}
    (yes : condition → first.Ends pre post raised) (no : ¬condition → other.Ends pre post raised) :
    (if condition then first else other).Ends pre post raised := by
  split
  · rename_i holds
    exact yes holds
  · rename_i fails
    exact no fails

/-- What is known where a procedure starts may be used. -/
theorem given {fact : Prop} (holds : fact → first.Ends pre post raised) :
    first.Ends (fun state => pre state ∧ fact) post raised :=
  fun state start => holds start.2 state start.1

/-- **Loop rule**, with an invariant. -/
theorem script {turn : Nat → Value → Step → Procedure State Error Value}
    {inv : State → Prop} : ∀ {steps : List Step},
    (∀ step ∈ steps, ∀ number value,
      (turn number value step).Ends inv (fun _ => inv) raised) →
    ∀ number value, (Procedure.script turn number value steps).Ends inv (fun _ => inv) raised
  | [], _, _, value => .pure fun _ holds => holds
  | step :: rest, each, number, value => by
    have head := each step List.mem_cons_self number value
    refine head.bind fun value => ?_
    exact script (fun step member => each step (List.mem_cons_of_mem _ member)) _ value

end Ends

end Procedure
