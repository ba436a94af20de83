import Mathlib.Logic.Function.Basic

/-!
# Tables in which one entry is overwritten

A table maps keys to optional values. `Overwritten` relates it to a table that is the same, or in
which the entry of one key was replaced by a value that may stand there. Whatever was overwritten
several times was overwritten once.
-/

universe u v

variable {Key : Type u} {Value : Type v} [DecidableEq Key]

/-- The table is the same, or the entry of the key was replaced by a value that may stand there. -/
def Overwritten (key : Key) (may : Value → Prop) (table after : Key → Option Value) : Prop :=
  after = table ∨ ∃ value, may value ∧ after = Function.update table key (some value)

namespace Overwritten

variable {key : Key} {may : Value → Prop} {table between after : Key → Option Value}

/-- The later value stands. -/
theorem trans (first : Overwritten key may table between)
    (second : Overwritten key may between after) : Overwritten key may table after := by
  obtain kept | ⟨value, allowed, written⟩ := second
  · rw [kept]
    exact first
  · obtain same | ⟨other, _, before⟩ := first
    · exact .inr ⟨value, allowed, by rw [written, same]⟩
    · exact .inr ⟨value, allowed, by rw [written, before, Function.update_idem]⟩

/-- More values may stand there. -/
theorem mono {wider : Value → Prop} (weaker : ∀ value, may value → wider value)
    (written : Overwritten key may table after) : Overwritten key wider table after := by
  obtain kept | ⟨value, allowed, written⟩ := written
  · exact .inl kept
  · exact .inr ⟨value, weaker value allowed, written⟩

/-- Where no value may stand the table is the same. -/
theorem kept (written : Overwritten key (fun _ => False) table after) : after = table := by
  obtain kept | ⟨value, refused, -⟩ := written
  · exact kept
  · cases refused

/-- Other entries are the same. -/
theorem other_kept {other : Key} (written : Overwritten key may table after) (apart : other ≠ key) :
    after other = table other := by
  obtain kept | ⟨value, -, written⟩ := written
  · rw [kept]
  · rw [written, Function.update_of_ne apart]

/-- An entry of the table was there before, or is the value that was written. -/
theorem entry {other : Key} {value : Value} (written : Overwritten key may table after)
    (found : after other = some value) : table other = some value ∨ other = key ∧ may value := by
  obtain kept | ⟨new, allowed, written⟩ := written
  · rw [kept] at found
    exact .inl found
  · rw [written] at found
    by_cases own : other = key
    · subst own
      obtain rfl : new = value := by simpa using found
      exact .inr ⟨rfl, allowed⟩
    · rw [Function.update_of_ne own] at found
      exact .inl found

end Overwritten
