import Mathlib.Data.List.Perm.Basic

/-!
# Counting over numbered slots

A list of parties in fixed slots is counted by a predicate. Rewriting one slot changes a count
by what the old and the new occupant contribute, and erasing one element removes what it
contributed. Two different slots that both count make the count at least two.
-/
namespace Slots

universe u

variable {Party : Type u} {slots : List Party} {slot : Nat} {old : Party}

/-- What a test counts for. -/
theorem ite_toNat (holds : Bool) : (if holds = true then 1 else 0) = holds.toNat := by
  cases holds <;> rfl

/-- Rewriting a slot exchanges the contribution of its occupant. -/
theorem countP_set (counts : Party → Bool) (found : slots[slot]? = some old) (new : Party) :
    (slots.set slot new).countP counts + (if counts old then 1 else 0) =
      slots.countP counts + (if counts new then 1 else 0) := by
  obtain ⟨bound, rfl⟩ := List.getElem?_eq_some_iff.mp found
  have present := List.boole_getElem_le_countP (p := counts) bound
  rw [List.countP_set bound]
  omega

/-- Erasing an element removes its contribution. -/
theorem countP_eraseIdx (counts : Party → Bool) (found : slots[slot]? = some old) :
    (slots.eraseIdx slot).countP counts + (if counts old then 1 else 0) =
      slots.countP counts := by
  obtain ⟨bound, rfl⟩ := List.getElem?_eq_some_iff.mp found
  rw [← (List.getElem_cons_eraseIdx_perm bound).countP_eq, List.countP_cons]

/-- A slot whose occupant counts makes the count positive. -/
theorem countP_pos (counts : Party → Bool) (found : slots[slot]? = some old)
    (counted : counts old = true) : 0 < slots.countP counts :=
  List.countP_pos_iff.mpr ⟨old, List.mem_of_getElem? found, counted⟩

/-- Where at most one slot counts, two slots that count are one. -/
theorem slot_unique {counts : Party → Bool} (single : slots.countP counts ≤ 1) {other : Nat}
    {new : Party} (found : slots[slot]? = some old) (counted : counts old = true)
    (found' : slots[other]? = some new) (counted' : counts new = true) : slot = other := by
  by_contra apart
  have erased := countP_eraseIdx counts found
  rw [if_pos counted] at erased
  have left : new ∈ slots.eraseIdx slot :=
    List.mem_eraseIdx_iff_getElem?.mpr ⟨other, Ne.symm apart, found'⟩
  have more := List.countP_pos_iff.mpr ⟨new, left, counted'⟩
  omega

/-- A slot of a list with one more at the end is the last one or an old one. -/
theorem getElem?_concat {new found : Party} (there : (slots ++ [new])[slot]? = some found) :
    (slot = slots.length ∧ found = new) ∨ (slot ≠ slots.length ∧ slots[slot]? = some found) := by
  by_cases last : slot = slots.length
  · subst last
    exact .inl ⟨rfl, by simpa using there.symm⟩
  · obtain ⟨bound, -⟩ := List.getElem?_eq_some_iff.mp there
    rw [List.length_append, List.length_singleton] at bound
    rw [List.getElem?_append_left (by omega)] at there
    exact .inr ⟨last, there⟩

/-- A slot of an extended list is an old one, or its occupant is new. -/
theorem getElem?_extended {more : List Party} {found : Party}
    (there : (slots ++ more)[slot]? = some found) :
    slots[slot]? = some found ∨ found ∈ more := by
  rcases Nat.lt_or_ge slot slots.length with inside | outside
  · rw [List.getElem?_append_left inside] at there
    exact .inl there
  · rw [List.getElem?_append_right outside] at there
    exact .inr (List.mem_of_getElem? there)

/-- A slot of a list in which one was rewritten is that one or an old one. -/
theorem getElem?_rewritten {other : Nat} {new found : Party}
    (there : (slots.set slot new)[other]? = some found) :
    (other = slot ∧ found = new) ∨ (other ≠ slot ∧ slots[other]? = some found) := by
  by_cases own : other = slot
  · subst own
    rw [List.getElem?_set, if_pos rfl] at there
    split at there
    · exact .inl ⟨rfl, (Option.some.inj there).symm⟩
    · cases there
  · rw [List.getElem?_set_ne (Ne.symm own)] at there
    exact .inr ⟨own, there⟩

/-- A list of one at most has no two different members. -/
theorem unique_of_length {first second : Party} (few : slots.length ≤ 1)
    (member : first ∈ slots) (member' : second ∈ slots) : first = second := by
  obtain ⟨one, bound, rfl⟩ := List.mem_iff_getElem.mp member
  obtain ⟨two, bound', rfl⟩ := List.mem_iff_getElem.mp member'
  obtain rfl : one = two := by omega
  rfl

end Slots
