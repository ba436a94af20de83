import Mathlib.Data.List.Basic

/-!
# Reading a log

A reader of a log that keeps the latest entry under each key. What it has read of the log may begin
late: an entry that it knows as the latest one is the latest one of the whole log. A condition on
each entry and what is before it (`Preceded`) is kept when a log grows by entries that meet it.
-/
namespace Latest

universe u v

variable {Entry : Type u} {Key : Type v} [DecidableEq Key] {keyOf : Entry → Key}
variable {entry : Entry} {key : Key} {log more : List Entry}

/-- The latest entry of a log under a key. -/
def latest (keyOf : Entry → Key) (log : List Entry) (key : Key) : Option Entry :=
  (log.filter fun entry => keyOf entry = key).getLast?

/-- A new entry is the latest one under its key. -/
theorem latest_concat (log : List Entry) (entry : Entry) :
    latest keyOf (log ++ [entry]) (keyOf entry) = some entry := by
  simp [latest]

/-- A new entry changes nothing under another key. -/
theorem latest_concat_other (log : List Entry) (apart : keyOf entry ≠ key) :
    latest keyOf (log ++ [entry]) key = latest keyOf log key := by
  simp [latest, apart]

/-- Under a key that no entry has there is no latest one. -/
theorem latest_none (absent : ∀ entry ∈ log, keyOf entry ≠ key) :
    latest keyOf log key = none := by
  have nothing : (log.filter fun entry => keyOf entry = key) = [] := by
    rw [List.filter_eq_nil_iff]
    intro entry member
    simpa using absent entry member
  rw [latest, nothing, List.getLast?_nil]

/-- **What a reader of the end of a log knows as the latest entry is the latest one.** -/
theorem latest_suffix (suffix : more <:+ log) (known : latest keyOf more key = some entry) :
    latest keyOf log key = some entry := by
  obtain ⟨earlier, rfl⟩ := suffix
  simp only [latest] at known
  rw [latest, List.filter_append, List.getLast?_append, known, Option.some_or]

/-- Every entry of a log meets a condition on the entries before it. -/
def Preceded (condition : List Entry → Entry → Prop) (log : List Entry) : Prop :=
  ∀ before entry later, log = before ++ entry :: later → condition before entry

/-- The empty log has no entry. -/
theorem Preceded.empty (condition : List Entry → Entry → Prop) : Preceded condition [] := by
  intro before entry later split
  simp at split

/-- **A log grows by entries that meet the condition.** -/
theorem Preceded.append {condition : List Entry → Entry → Prop} (preceded : Preceded condition log)
    (meets : ∀ before entry later, more = before ++ entry :: later →
      condition (log ++ before) entry) : Preceded condition (log ++ more) := by
  intro before entry later split
  rcases List.append_eq_append_iff.mp split with ⟨among, rfl, rest⟩ | ⟨among, old, rest⟩
  · exact meets among entry later rest
  · cases among with
    | nil =>
      rw [List.append_nil] at old
      have first := meets [] entry later rest.symm
      rwa [List.append_nil, old] at first
    | cons head tail =>
      obtain ⟨rfl, -⟩ := List.cons.inj rest
      exact preceded before entry tail old

end Latest
