import Mathlib.Logic.Basic

/-!
# Runs of partial step functions

A machine is a partial step function: it answers with the state after an action, or refuses an
action that is not enabled. `Run` relates a state to the states reached from it by steps that
each meet a condition on the state before them, and its rules carry an invariant over a whole
run, weaken the condition, join two runs and follow a run through a map to another machine.
`History` keeps the steps of a run for properties of their order. `execute` runs a list of
actions, so a concrete run is checked by evaluation.
-/
namespace Transition

universe u v w x

/-- A partial step function; `none` refuses an action that is not enabled. -/
abbrev Machine (State : Type u) (Action : Type v) := State → Action → Option State

/-- States reached from `start` by steps that each meet `allowed` on the state before them. -/
inductive Run {State : Type u} {Action : Type v} (step : Machine State Action)
    (allowed : State → Action → Prop) (start : State) : State → Prop
  /-- No step. -/
  | refl : Run step allowed start start
  /-- One more allowed step. -/
  | next {state after : State} {action : Action} : Run step allowed start state →
      allowed state action → step state action = some after → Run step allowed start after

/-- One step as it was taken. -/
structure Taken (State : Type u) (Action : Type v) where
  /-- The state it was taken in. -/
  before : State
  /-- The action. -/
  action : Action
  /-- The state it led to. -/
  after : State

/-- A run with its steps, the latest first. -/
inductive History {State : Type u} {Action : Type v} (step : Machine State Action)
    (allowed : State → Action → Prop) (start : State) : List (Taken State Action) → State → Prop
  /-- No step. -/
  | refl : History step allowed start [] start
  /-- One more allowed step. -/
  | next {past : List (Taken State Action)} {state after : State} {action : Action} :
      History step allowed start past state → allowed state action →
      step state action = some after →
      History step allowed start (⟨state, action, after⟩ :: past) after

section
variable {State : Type u} {Action : Type v} {step : Machine State Action}
variable {allowed : State → Action → Prop} {start finish : State}

/-- **Invariant rule.** What holds at the start and is kept by every allowed step from a state
of the run holds at its end. -/
theorem Run.invariant (Holds : State → Prop) (initially : Holds start)
    (kept : ∀ {state action after}, Run step allowed start state → Holds state →
      allowed state action → step state action = some after → Holds after)
    (run : Run step allowed start finish) : Holds finish := by
  induction run with
  | refl => exact initially
  | next earlier may taken ih => exact kept earlier ih may taken

/-- A run under one condition is a run under every condition its steps meet. -/
theorem Run.mono {wider : State → Action → Prop}
    (weaker : ∀ {state action}, Run step allowed start state → allowed state action →
      wider state action)
    (run : Run step allowed start finish) : Run step wider start finish := by
  induction run with
  | refl => exact .refl
  | next earlier may taken ih => exact .next ih (weaker earlier may) taken

/-- Two runs in a row are a run. -/
theorem Run.trans {middle : State} (first : Run step allowed start middle)
    (second : Run step allowed middle finish) : Run step allowed start finish := by
  induction second with
  | refl => exact first
  | next _ may taken ih => exact .next ih may taken

/-- One allowed step is a run. -/
theorem Run.single {action : Action} (may : allowed start action)
    (taken : step start action = some finish) : Run step allowed start finish :=
  .next .refl may taken

/-- **Simulation rule.** When a map sends every allowed step of a run to a run of another
machine, it sends the whole run to a run of that machine. -/
theorem Run.simulate {Other : Type w} {Label : Type x} {model : Machine Other Label}
    {may : Other → Label → Prop} (image : State → Other)
    (followed : ∀ {state action after}, Run step allowed start state → allowed state action →
      step state action = some after → Run model may (image state) (image after))
    (run : Run step allowed start finish) : Run model may (image start) (image finish) := by
  induction run with
  | refl => exact .refl
  | next earlier permitted taken ih => exact ih.trans (followed earlier permitted taken)

/-- A history is a run. -/
theorem History.run {past : List (Taken State Action)}
    (history : History step allowed start past finish) : Run step allowed start finish := by
  induction history with
  | refl => exact .refl
  | next _ may taken ih => exact .next ih may taken

/-- Every run has a history. -/
theorem Run.history (run : Run step allowed start finish) :
    ∃ past, History step allowed start past finish := by
  induction run with
  | refl => exact ⟨[], .refl⟩
  | next _ may taken ih =>
    obtain ⟨past, history⟩ := ih
    exact ⟨_, .next history may taken⟩

/-- A history under one condition is a history under every weaker one. -/
theorem History.mono {wider : State → Action → Prop}
    (weaker : ∀ {state action}, allowed state action → wider state action)
    {past : List (Taken State Action)} (history : History step allowed start past finish) :
    History step wider start past finish := by
  induction history with
  | refl => exact .refl
  | next _ may taken ih => exact .next ih (weaker may) taken

/-- The first step of a history was taken at its start. -/
theorem History.first {past : List (Taken State Action)}
    (history : History step allowed start past finish) :
    past = [] ∨ ∃ taken ∈ past, taken.before = start := by
  induction history with
  | refl => exact .inl rfl
  | next earlier _ _ ih =>
    rcases ih with rfl | ⟨taken, member, same⟩
    · cases earlier
      exact .inr ⟨_, List.mem_cons_self, rfl⟩
    · exact .inr ⟨taken, List.mem_cons_of_mem _ member, same⟩

/-- The earlier steps of a history are a history. -/
theorem History.earlier {past : List (Taken State Action)} :
    ∀ {later : List (Taken State Action)} {finish : State},
      History step allowed start (later ++ past) finish →
      ∃ state, History step allowed start past state
  | [], finish, history => ⟨finish, history⟩
  | _ :: _, _, .next before _ _ => History.earlier before

/-- **Invariant rule over histories.** What holds of the empty history and is kept by every
allowed step holds of every history. -/
theorem History.invariant (Holds : List (Taken State Action) → State → Prop)
    (initially : Holds [] start)
    (kept : ∀ {past state action after}, History step allowed start past state →
      Holds past state → allowed state action → step state action = some after →
      Holds (⟨state, action, after⟩ :: past) after)
    {past : List (Taken State Action)} (history : History step allowed start past finish) :
    Holds past finish := by
  induction history with
  | refl => exact initially
  | next earlier may taken ih => exact kept earlier ih may taken

/-- Every step of a history continues an earlier one. -/
theorem History.each {past : List (Taken State Action)}
    (history : History step allowed start past finish) :
    ∀ taken ∈ past, ∃ earlier, History step allowed start earlier taken.before ∧
      allowed taken.before taken.action ∧ step taken.before taken.action = some taken.after := by
  induction history with
  | refl => exact nofun
  | next before may taken ih =>
    intro later member
    rcases List.mem_cons.mp member with rfl | earlier
    · exact ⟨_, before, may, taken⟩
    · exact ih later earlier

/-- Every step meets a condition on the steps before it; the latest step comes first. -/
def Throughout (condition : List (Taken State Action) → Taken State Action → Prop) :
    List (Taken State Action) → Prop
  | [] => True
  | taken :: earlier => condition earlier taken ∧ Throughout condition earlier

instance (condition : List (Taken State Action) → Taken State Action → Prop)
    [∀ earlier taken, Decidable (condition earlier taken)] :
    (past : List (Taken State Action)) → Decidable (Throughout condition past)
  | [] => .isTrue trivial
  | taken :: earlier =>
    have : Decidable (Throughout condition earlier) :=
      instDecidableThroughout condition earlier
    inferInstanceAs (Decidable (condition earlier taken ∧ Throughout condition earlier))

/-- **Invariant rule under a condition on the steps so far.** What holds of the empty history and
is kept by every allowed step that meets the condition holds of every history whose steps all
meet it. -/
theorem History.throughout {condition : List (Taken State Action) → Taken State Action → Prop}
    (Holds : List (Taken State Action) → State → Prop) (initially : Holds [] start)
    (kept : ∀ {past state action after}, History step allowed start past state →
      Holds past state → allowed state action → condition past ⟨state, action, after⟩ →
      step state action = some after → Holds (⟨state, action, after⟩ :: past) after)
    {past : List (Taken State Action)} (history : History step allowed start past finish)
    (met : Throughout condition past) : Holds past finish := by
  induction history with
  | refl => exact initially
  | next earlier may taken ih => exact kept earlier (ih met.2) may met.1 taken

/-- Conditions that agree on every step of a history before which the second held agree
throughout it. -/
theorem History.throughout_iff
    {condition other : List (Taken State Action) → Taken State Action → Prop}
    (same : ∀ {past state action after}, History step allowed start past state →
      Throughout other past → allowed state action → step state action = some after →
      (condition past ⟨state, action, after⟩ ↔ other past ⟨state, action, after⟩))
    {past : List (Taken State Action)} (history : History step allowed start past finish) :
    Throughout condition past ↔ Throughout other past := by
  induction history with
  | refl => exact Iff.rfl
  | next earlier may taken ih =>
    constructor
    · intro both
      have before := ih.mp both.2
      exact ⟨(same earlier before may taken).mp both.1, before⟩
    · intro both
      exact ⟨(same earlier both.2 may taken).mpr both.1, ih.mpr both.2⟩

/-- Conditions that agree on every step of a history agree throughout it. -/
theorem History.throughout_congr
    {condition other : List (Taken State Action) → Taken State Action → Prop}
    (same : ∀ {past state action after}, History step allowed start past state →
      allowed state action → step state action = some after →
      (condition past ⟨state, action, after⟩ ↔ other past ⟨state, action, after⟩))
    {past : List (Taken State Action)} (history : History step allowed start past finish) :
    Throughout condition past ↔ Throughout other past :=
  history.throughout_iff fun earlier _ may taken => same earlier may taken

end

section
variable {State : Type u} {Action : Type v}

/-- Take the actions of a list in order. -/
def execute (step : Machine State Action) : State → List Action → Option State
  | state, [] => some state
  | state, action :: rest => (step state action).bind fun after => execute step after rest

/-- The machine that refuses a step whose state before it fails a decidable condition. -/
def guarded (step : Machine State Action) (allowed : State → Action → Prop)
    [∀ state action, Decidable (allowed state action)] : Machine State Action :=
  fun state action => if allowed state action then step state action else none

/-- A guarded step is a step that met the condition. -/
theorem guarded_eq_some {step : Machine State Action} {allowed : State → Action → Prop}
    [∀ state action, Decidable (allowed state action)] {state after : State} {action : Action} :
    guarded step allowed state action = some after ↔
      allowed state action ∧ step state action = some after := by
  unfold guarded
  split
  · rename_i may
    exact ⟨fun taken => ⟨may, taken⟩, And.right⟩
  · rename_i refused
    exact ⟨nofun, fun both => absurd both.1 refused⟩

/-- Executing a list of actions under a guard gives a run whose steps meet the guard. -/
theorem execute_run {step : Machine State Action} {allowed : State → Action → Prop}
    [∀ state action, Decidable (allowed state action)] :
    ∀ {actions : List Action} {start finish : State},
      execute (guarded step allowed) start actions = some finish → Run step allowed start finish
  | [], start, finish, done => by
    obtain rfl := Option.some.inj done
    exact .refl
  | action :: rest, start, finish, done => by
    obtain ⟨after, taken, later⟩ := Option.bind_eq_some_iff.mp done
    obtain ⟨may, taken⟩ := guarded_eq_some.mp taken
    exact (Run.single may taken).trans (execute_run later)

/-- A list of actions that executes to a state passing a test shows such a state reached. -/
theorem reaches {step : Machine State Action} {allowed : State → Action → Prop}
    [∀ state action, Decidable (allowed state action)] {start : State} {actions : List Action}
    {test : State → Bool}
    (passed : (execute (guarded step allowed) start actions).any test = true) :
    ∃ finish, Run step allowed start finish ∧ test finish = true := by
  cases done : execute (guarded step allowed) start actions with
  | none => simp [done] at passed
  | some finish => exact ⟨finish, execute_run done, by simpa [done] using passed⟩

/-- Take the actions of a list in order, keeping the steps. -/
def trace (step : Machine State Action) :
    List (Taken State Action) → State → List Action → Option (List (Taken State Action) × State)
  | past, state, [] => some (past, state)
  | past, state, action :: rest => (step state action).bind fun after =>
    trace step (⟨state, action, after⟩ :: past) after rest

/-- Tracing a list of actions under a guard continues a history. -/
theorem trace_history {step : Machine State Action} {allowed : State → Action → Prop}
    [∀ state action, Decidable (allowed state action)] {start : State} :
    ∀ {actions : List Action} {past past' : List (Taken State Action)} {state finish : State},
      History step allowed start past state →
      trace (guarded step allowed) past state actions = some (past', finish) →
      History step allowed start past' finish
  | [], _, _, _, _, history, done => by
    cases done
    exact history
  | action :: rest, _, _, _, _, history, done => by
    obtain ⟨after, taken, later⟩ := Option.bind_eq_some_iff.mp done
    obtain ⟨may, taken⟩ := guarded_eq_some.mp taken
    exact trace_history (history.next may taken) later

/-- A list of actions whose trace passes a test shows such a history. -/
theorem traces {step : Machine State Action} {allowed : State → Action → Prop}
    [∀ state action, Decidable (allowed state action)] {start : State} {actions : List Action}
    {test : List (Taken State Action) × State → Bool}
    (passed : (trace (guarded step allowed) [] start actions).any test = true) :
    ∃ past finish, History step allowed start past finish ∧ test (past, finish) = true := by
  cases done : trace (guarded step allowed) [] start actions with
  | none => simp [done] at passed
  | some reached =>
    obtain ⟨past, finish⟩ := reached
    exact ⟨past, finish, trace_history .refl done, by simpa [done] using passed⟩

end

end Transition
