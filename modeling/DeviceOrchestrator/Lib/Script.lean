import Mathlib.Data.List.Basic

/-!
# Scripts that stop at the first error

An interpreter takes the steps of a script in order, each with the value that the steps before it
left, and stops at the first step that raises. `run_error_iff` says which step that is: one that
is reached, because every step before it returned, and that raises itself. So a kind of error
leaves the script exactly if some reached step raises one of that kind.
-/
namespace Script

universe u v w

variable {Step : Type u} {Value : Type v} {Error : Type w}

/-- Take the steps in order; the first of them has the given number. -/
def run (turn : Nat → Value → Step → Except Error Value) :
    Nat → Value → List Step → Except Error Value
  | _, value, [] => .ok value
  | number, value, step :: rest =>
    match turn number value step with
    | .error error => .error error
    | .ok value => run turn (number + 1) value rest

variable {turn : Nat → Value → Step → Except Error Value} {number : Nat} {start : Value}

/-- A script returns if its first step returns and the others return after it. -/
theorem run_cons_ok {step : Step} {rest : List Step} {finish : Value} :
    run turn number start (step :: rest) = .ok finish ↔
      ∃ value, turn number start step = .ok value ∧
        run turn (number + 1) value rest = .ok finish := by
  cases taken : turn number start step with
  | error error => simp [run, taken]
  | ok value => simp [run, taken]

/-- A step is reached with a value if the steps before it leave that value. -/
def Reaches (turn : Nat → Value → Step → Except Error Value) (number : Nat) (start : Value)
    (steps : List Step) (position : Nat) (value : Value) : Prop :=
  run turn number start (steps.take position) = .ok value

/-- **Where a script raises.** The error is that of a reached step. -/
theorem run_error_iff {steps : List Step} {error : Error} :
    run turn number start steps = .error error ↔
      ∃ position step value, steps[position]? = some step ∧
        Reaches turn number start steps position value ∧
        turn (number + position) value step = .error error := by
  induction steps generalizing number start with
  | nil =>
    constructor
    · intro raised
      cases raised
    · rintro ⟨position, step, value, found, -⟩
      simp at found
  | cons first rest ih =>
    cases taken : turn number start first with
    | error raised =>
      simp only [run, taken]
      constructor
      · rintro ⟨⟩
        exact ⟨0, first, start, rfl, rfl, taken⟩
      · rintro ⟨position, step, value, found, reaches, raises⟩
        cases position with
        | zero =>
          obtain rfl : first = step := by simpa using found
          obtain rfl : start = value := by simpa [Reaches, run] using reaches
          exact (taken.symm.trans raises)
        | succ position => simp [Reaches, run, taken] at reaches
    | ok next =>
      simp only [run, taken, ih]
      constructor
      · rintro ⟨position, step, value, found, reaches, raises⟩
        refine ⟨position + 1, step, value, by simpa using found, ?_, ?_⟩
        · simpa [Reaches, run, taken] using reaches
        · rwa [← Nat.add_assoc, Nat.add_right_comm]
      · rintro ⟨position, step, value, found, reaches, raises⟩
        cases position with
        | zero =>
          obtain rfl : first = step := by simpa using found
          obtain rfl : start = value := by simpa [Reaches, run] using reaches
          rw [Nat.add_zero, taken] at raises
          cases raises
        | succ position =>
          refine ⟨position, step, value, by simpa using found, ?_, ?_⟩
          · simpa [Reaches, run, taken] using reaches
          · rwa [Nat.add_right_comm, Nat.add_assoc]

/-- A script raises no error of a kind exactly if no reached step raises one. -/
theorem run_spares_iff {steps : List Step} {kind : Error → Prop} :
    (∀ error, run turn number start steps = .error error → ¬kind error) ↔
      ∀ position step value, steps[position]? = some step →
        Reaches turn number start steps position value →
        ∀ error, turn (number + position) value step = .error error → ¬kind error := by
  constructor
  · intro spares position step value found reaches error raises
    exact spares error (run_error_iff.mpr ⟨position, step, value, found, reaches, raises⟩)
  · intro spares error raised
    obtain ⟨position, step, value, found, reaches, raises⟩ := run_error_iff.mp raised
    exact spares position step value found reaches error raises

end Script
