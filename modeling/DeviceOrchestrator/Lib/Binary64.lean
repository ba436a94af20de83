import Mathlib.Algebra.Field.Rat

/-!
# The numbers that binary64 words stand for

A float is a zero, a finite number, an infinity or NaN. `number?` is the number of a finite one, and
the three status tests of the language tell the other two apart.
-/
namespace Binary64

open Float.Model (UnpackedFloat)

/-- The number of a finite float. -/
def number? (value : Float) : Option Rat :=
  match value.toModel.unpack with
  | .zero _ => some 0
  | .finite sign mantissa exponent _ =>
    let size : Rat := mantissa * 2 ^ exponent
    some (if sign == .negative then -size else size)
  | .infinity _ | .notANumber => none

variable {value : Float}

/-- Exactly the finite floats stand for a number. -/
theorem isSome_number? : (number? value).isSome = value.isFinite := by
  unfold number? Float.isFinite Float.Model.isFinite
  cases value.toModel.unpack <;> rfl

/-- A finite float stands for a number. -/
theorem number?_of_isFinite (finite : value.isFinite = true) :
    ∃ number, number? value = some number := by
  rw [← isSome_number?] at finite
  exact Option.isSome_iff_exists.mp finite

/-- A finite float is not NaN. -/
theorem isNaN_of_isFinite (finite : value.isFinite = true) : value.isNaN = false := by
  unfold Float.isFinite Float.Model.isFinite at finite
  unfold Float.isNaN Float.Model.isNaN
  cases unpacked : value.toModel.unpack with
  | notANumber =>
    rw [unpacked] at finite
    cases finite
  | zero | finite | infinity => rfl

/-- An infinity is not finite. -/
theorem isFinite_of_isInf (infinite : value.isInf = true) : value.isFinite = false := by
  unfold Float.isInf Float.Model.isInf at infinite
  unfold Float.isFinite Float.Model.isFinite
  cases unpacked : value.toModel.unpack with
  | infinity sign => rfl
  | notANumber => rfl
  | zero | finite =>
    rw [unpacked] at infinite
    cases infinite

end Binary64
