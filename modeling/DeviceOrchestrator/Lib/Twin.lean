import DeviceOrchestrator.Lib.Procedure

/-!
# Two runs of a procedure

Two procedures are twins under a relation of states and one of values when, started in related
states, they end in related states, with related values or with one error. The rules follow the ways
in which procedures are put together: sequences, branches, handlers and the loops of scripts of
twins are twins.
-/

universe u v

/-- Ends that cannot be told apart but by what the relations leave open. -/
inductive Twin.Ends {State Error Value Other : Type u} (states : State → State → Prop)
    (values : Value → Other → Prop) :
    Except Error Value × State → Except Error Other × State → Prop
  /-- Both return. -/
  | ok {value : Value} {other : Other} {state state' : State} : values value other →
      states state state' → Ends states values (.ok value, state) (.ok other, state')
  /-- Both raise the same error. -/
  | error (error : Error) {state state' : State} : states state state' →
      Ends states values (.error error, state) (.error error, state')

/-- **Twins**: from related states the procedures end alike. -/
def Twin {State Error Value Other : Type u} (states : State → State → Prop)
    (values : Value → Other → Prop) (first : Procedure State Error Value)
    (second : Procedure State Error Other) : Prop :=
  ∀ state state', states state state' →
    Twin.Ends states values (first.start state) (second.start state')

namespace Twin

variable {State Error Value Other Next Last : Type u} {Step : Type v}
variable {states : State → State → Prop} {values : Value → Other → Prop}
variable {nexts : Next → Last → Prop}
variable {first : Procedure State Error Value} {second : Procedure State Error Other}

/-- Related values are twins. -/
theorem pure {value : Value} {other : Other} (related : values value other) :
    Twin states values (Pure.pure value : Procedure State Error Value) (Pure.pure other) :=
  fun _ _ same => .ok related same

/-- An error is its own twin. -/
theorem throw (error : Error) :
    Twin states values (MonadExcept.throw error) (MonadExcept.throw error) :=
  fun _ _ same => .error error same

/-- **Sequence rule.** -/
theorem bind {next : Value → Procedure State Error Next}
    {last : Other → Procedure State Error Last} (begins : Twin states values first second)
    (follows : ∀ {value other}, values value other → Twin states nexts (next value) (last other)) :
    Twin states nexts (first >>= next) (second >>= last) := by
  intro state state' same
  have began := begins state state' same
  rw [Procedure.start_bind, Procedure.start_bind]
  generalize first.start state = one at began ⊢
  generalize second.start state' = two at began ⊢
  cases began with
  | ok related after => exact follows related _ _ after
  | error error after => exact .error error after

/-- The sequence rule where the first procedures return the same value. -/
theorem andThen {second : Procedure State Error Value}
    {next : Value → Procedure State Error Next} {last : Value → Procedure State Error Last}
    (begins : Twin states Eq first second)
    (follows : ∀ value, Twin states nexts (next value) (last value)) :
    Twin states nexts (first >>= next) (second >>= last) := by
  apply bind begins
  rintro value _ rfl
  exact follows value

/-- **Branch rule**, for a condition that both procedures decide alike. -/
theorem ite {condition : Prop} [Decidable condition]
    {first' : Procedure State Error Value} {second' : Procedure State Error Other}
    (yes : condition → Twin states values first second)
    (no : ¬condition → Twin states values first' second') :
    Twin states values (if condition then first else first')
      (if condition then second else second') := by
  split
  · rename_i holds
    exact yes holds
  · rename_i fails
    exact no fails

/-- **Handler rule.** -/
theorem tryCatch {handler : Error → Procedure State Error Value}
    {handler' : Error → Procedure State Error Other} (body : Twin states values first second)
    (handles : ∀ error, Twin states values (handler error) (handler' error)) :
    Twin states values (MonadExcept.tryCatch first handler)
      (MonadExcept.tryCatch second handler') := by
  intro state state' same
  have began := body state state' same
  rw [Procedure.start_tryCatch, Procedure.start_tryCatch]
  generalize first.start state = one at began ⊢
  generalize second.start state' = two at began ⊢
  cases began with
  | ok related after => exact .ok related after
  | error error after => exact handles error _ _ after

/-- **Script rule.** -/
theorem script {turn : Nat → Value → Step → Procedure State Error Value}
    {turn' : Nat → Other → Step → Procedure State Error Other} :
    ∀ {steps : List Step} (_ : ∀ step ∈ steps, ∀ number {value other}, values value other →
        Twin states values (turn number value step) (turn' number other step))
      (number : Nat) {value : Value} {other : Other}, values value other →
      Twin states values (Procedure.script turn number value steps)
        (Procedure.script turn' number other steps)
  | [], _, _, _, _, related => pure related
  | step :: _, turns, number, _, _, related =>
    bind (turns step List.mem_cons_self number related) fun next =>
      script (fun step member => turns step (List.mem_cons_of_mem _ member)) (number + 1) next

/-- A procedure is its own twin when it reads nothing that the relation leaves open. -/
theorem act {turn : State → Except Error Value × State} {turn' : State → Except Error Other × State}
    (alike : ∀ state state', states state state' →
      Ends states values (turn state) (turn' state')) :
    Twin states values (Procedure.act turn) (Procedure.act turn') :=
  alike

/-- A result that needs no state is its own twin. -/
theorem lift (result : Except Error Value) :
    Twin states Eq (Procedure.lift result) (Procedure.lift result) := by
  intro state state' same
  cases result with
  | ok value => exact .ok rfl same
  | error error => exact .error error same

end Twin
