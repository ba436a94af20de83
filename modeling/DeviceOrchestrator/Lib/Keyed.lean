import Mathlib.Data.List.Nodup

/-!
# Insertion-ordered tables

A dict keyed by a part of its values: the values in insertion order, no two with one key.
Inserting a value under a known key merges it in place; under a new key it goes to the end.
`get?` reads a table back after each operation, and the order is what iteration visits.
-/

universe u v

/-- Values in insertion order, no two with the same key. -/
structure Keyed {Key : Type u} {Value : Type v} (key : Value → Key) where
  /-- The values, in insertion order. -/
  items : List Value
  /-- No two values share a key. -/
  distinct : (items.map key).Nodup

namespace Keyed

variable {Key : Type u} {Value : Type v} {key : Value → Key}

/-- The table without values. -/
def empty : Keyed key := ⟨[], by simp⟩

instance : Inhabited (Keyed key) := ⟨empty⟩

section
variable [DecidableEq Key]

/-- The value under a key. -/
def get? (table : Keyed key) (wanted : Key) : Option Value :=
  table.items.find? fun value => key value = wanted

/-- Nothing is under any key of the empty table. -/
@[simp]
theorem get?_empty (wanted : Key) : (empty : Keyed key).get? wanted = none := rfl

/-- The value under a key has that key. -/
theorem key_of_get? {table : Keyed key} {wanted : Key} {value : Value}
    (found : table.get? wanted = some value) : key value = wanted := by
  simpa using List.find?_some found

/-- A value of the table is the value under its key. -/
theorem get?_key {table : Keyed key} {value : Value} (member : value ∈ table.items) :
    table.get? (key value) = some value := by
  obtain ⟨items, distinct⟩ := table
  simp only [get?]
  induction items with
  | nil => cases member
  | cons first rest ih =>
    simp only [List.map_cons, List.nodup_cons] at distinct
    rcases List.mem_cons.mp member with rfl | later
    · simp
    · have apart : key first ≠ key value := fun same =>
        distinct.1 (same ▸ List.mem_map_of_mem later)
      rw [List.find?_cons_of_neg (by simpa using apart)]
      exact ih distinct.2 later

end

/-- Change every value, keeping its key. -/
def map (table : Keyed key) (change : Value → Value)
    (keeps : ∀ value, key (change value) = key value) : Keyed key :=
  ⟨table.items.map change, by
    have same : key ∘ change = key := funext keeps
    rw [List.map_map, same]
    exact table.distinct⟩

/-- Reading back a change of every value. -/
@[simp]
theorem get?_map [DecidableEq Key] (table : Keyed key) (change : Value → Value)
    (keeps : ∀ value, key (change value) = key value) (wanted : Key) :
    (table.map change keeps).get? wanted = (table.get? wanted).map change := by
  have same : ((fun value => decide (key value = wanted)) ∘ change) =
      fun value => decide (key value = wanted) := by
    funext value
    simp [keeps]
  rw [get?, map, List.find?_map, same, get?]

/-- A way to merge a new value into the one already under its key. -/
structure Merge (key : Value → Key) where
  /-- Merge the old value and the new one. -/
  merge : Value → Value → Value
  /-- The merged value keeps the old key. -/
  keeps : ∀ old new, key (merge old new) = key old

/-- The new value takes the old one's place, as in assignment to a dict entry. -/
def Merge.overwrite [DecidableEq Key] : Merge key where
  merge old new := if key new = key old then new else old
  keeps old new := by
    split
    · assumption
    · rfl

variable [DecidableEq Key]

/-- Merge a value into the one under its key, or put it at the end. -/
def upsert (table : Keyed key) (how : Merge key) (value : Value) : Keyed key :=
  if known : key value ∈ table.items.map key then
    table.map (fun old => if key old = key value then how.merge old value else old) (by
      intro old
      split
      · exact how.keeps old value
      · rfl)
  else
    ⟨table.items ++ [value], by
      rw [List.map_append, List.nodup_append]
      refine ⟨table.distinct, by simp, ?_⟩
      intro first member last single
      obtain rfl := List.mem_singleton.mp single
      rintro rfl
      exact known member⟩

/-- Nothing is under a key that no value has. -/
theorem get?_eq_none {table : Keyed key} {wanted : Key} :
    table.get? wanted = none ↔ wanted ∉ table.items.map key := by
  simp [get?, List.find?_eq_none]

/-- Reading back an insertion. -/
theorem get?_upsert (table : Keyed key) (how : Merge key) (value : Value) (wanted : Key) :
    (table.upsert how value).get? wanted =
      if key value = wanted then
        some (match table.get? wanted with
          | none => value
          | some old => how.merge old value)
      else table.get? wanted := by
  unfold upsert
  split
  · rename_i known
    rw [get?_map]
    by_cases same : key value = wanted
    · subst same
      simp only [↓reduceIte]
      cases found : table.get? (key value) with
      | none => exact absurd known (get?_eq_none.mp found)
      | some old => simp [key_of_get? found]
    · simp only [same, ↓reduceIte]
      cases found : table.get? wanted with
      | none => rfl
      | some old =>
        have apart : key old ≠ key value := by
          rw [key_of_get? found]
          exact Ne.symm same
        simp [apart]
  · rename_i unknown
    by_cases same : key value = wanted
    · subst same
      rw [get?_eq_none.mpr unknown]
      simp only [get?, List.find?_append, ↓reduceIte]
      rw [show table.items.find? (fun old => decide (key old = key value)) = none from
        get?_eq_none.mpr unknown]
      simp
    · simp only [get?, List.find?_append, same, ↓reduceIte]
      simp [same]

/-- Insert the values of a list in order. -/
def absorb (table : Keyed key) (how : Merge key) (values : List Value) : Keyed key :=
  values.foldl (fun table value => table.upsert how value) table

/-- A key that none of the inserted values has keeps its value. -/
theorem get?_absorb_of_notMem (how : Merge key) (wanted : Key) :
    ∀ (values : List Value) (table : Keyed key), wanted ∉ values.map key →
      (table.absorb how values).get? wanted = table.get? wanted
  | [], _, _ => rfl
  | value :: rest, table, absent => by
    simp only [List.map_cons, List.mem_cons, not_or] at absent
    rw [absorb, List.foldl_cons, ← absorb, get?_absorb_of_notMem how wanted rest _ absent.2,
      get?_upsert, if_neg (Ne.symm absent.1)]

/-- Reading back the insertion of a table's values: each is merged into the value under its key,
and every other key keeps its value. -/
theorem get?_absorb (how : Merge key) (wanted : Key) (found : Keyed key) (table : Keyed key) :
    (table.absorb how found.items).get? wanted =
      match found.get? wanted with
      | none => table.get? wanted
      | some value => some (match table.get? wanted with
          | none => value
          | some old => how.merge old value) := by
  obtain ⟨values, distinct⟩ := found
  induction values generalizing table with
  | nil => rfl
  | cons value rest ih =>
    simp only [List.map_cons, List.nodup_cons] at distinct
    rw [absorb, List.foldl_cons, ← absorb]
    by_cases same : key value = wanted
    · subst same
      rw [get?_absorb_of_notMem how _ rest _ distinct.1, get?_upsert, if_pos rfl]
      simp [get?]
    · rw [ih _ distinct.2, get?_upsert, if_neg same]
      simp [get?, same]

/-- What a list of insertions with overwriting leaves under a key is the last value with that
key, as in a dict comprehension. -/
theorem get?_collect (values : List Value) (wanted : Key) :
    ((empty : Keyed key).absorb Merge.overwrite values).get? wanted =
      values.reverse.find? fun value => key value = wanted := by
  suffices general : ∀ table : Keyed key,
      (table.absorb Merge.overwrite values).get? wanted =
        (values.reverse.find? fun value => key value = wanted).or (table.get? wanted) by
    rw [general, get?_empty, Option.or_none]
  induction values with
  | nil => intro table; rfl
  | cons value rest ih =>
    intro table
    rw [absorb, List.foldl_cons, ← absorb, ih, get?_upsert, List.reverse_cons,
      List.find?_append, Option.or_assoc]
    by_cases same : key value = wanted
    · subst same
      congr 1
      cases found : table.get? (key value) with
      | none => simp
      | some old => simp [Merge.overwrite, key_of_get? found]
    · congr 1
      simp [same]

/-- The values that an iteration visits before it comes to a key. -/
def ahead (table : Keyed key) (wanted : Key) : List Value :=
  table.items.takeWhile fun value => key value ≠ wanted

/-- **Which key a search stops at.** The first value that passes a test is the one under a key
exactly if that one passes and none ahead of it does. -/
theorem key_find?_iff {table : Keyed key} {passes : Value → Bool} {wanted : Key} {value : Value}
    (found : table.items.find? passes = some value) :
    key value = wanted ↔
      (table.get? wanted).any passes = true ∧ (table.ahead wanted).any passes = false := by
  obtain ⟨items, distinct⟩ := table
  simp only [get?, ahead]
  induction items with
  | nil => cases found
  | cons first rest ih =>
    simp only [List.map_cons, List.nodup_cons] at distinct
    by_cases here : key first = wanted
    · simp only [here, ne_eq, not_true_eq_false, decide_true, decide_false, List.find?_cons_of_pos,
        Bool.false_eq_true, not_false_eq_true, List.takeWhile_cons_of_neg, List.any_nil, and_true,
        Option.any_some]
      constructor
      · intro same
        cases passed : passes first with
        | true => rfl
        | false =>
          rw [List.find?_cons_of_neg (by simp [passed])] at found
          have member := List.mem_map_of_mem (f := key) (List.mem_of_find?_eq_some found)
          rw [same, ← here] at member
          exact absurd member distinct.1
      · intro passed
        rw [List.find?_cons_of_pos passed] at found
        rw [← Option.some.inj found, here]
    · rw [List.find?_cons_of_neg (by simpa using here),
        List.takeWhile_cons_of_pos (by simpa using here), List.any_cons]
      cases passed : passes first with
      | true =>
        rw [List.find?_cons_of_pos passed] at found
        obtain rfl := Option.some.inj found
        simp [here]
      | false =>
        rw [List.find?_cons_of_neg (by simp [passed])] at found
        rw [Bool.false_or]
        exact ih distinct.2 found

end Keyed
