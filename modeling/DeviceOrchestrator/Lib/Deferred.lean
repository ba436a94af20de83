import Mathlib.Data.List.Basic
import Mathlib.Logic.Function.Basic

/-!
# Cells written through a queue

Parties decide on a write, wait in a queue and write later, in the order in which they asked.
The value of a cell is safe in a set when neither the cell nor any write that waits for it leaves
the set (`Settled`). It is on its way there when some waiting write enters the set and none
behind it leaves it again (`Covered`): once that write is done the cell is settled.
-/
namespace Deferred

universe u v

/-- Cells and the writes that wait, the next one first. -/
@[ext]
structure State (Cell : Type u) (Value : Type v) where
  /-- The value of each known cell. -/
  value : Cell → Option Value
  /-- The waiting writes. -/
  pending : List (Cell × Value)

variable {Cell : Type u} {Value : Type v}

namespace State

/-- A write asks to be done. -/
def ask (state : State Cell Value) (cell : Cell) (value : Value) : State Cell Value :=
  { state with pending := state.pending ++ [(cell, value)] }

/-- The values after one write; an unknown cell stays unknown. -/
def put [DecidableEq Cell] (value : Cell → Option Value) (cell : Cell) (new : Value) :
    Cell → Option Value :=
  fun other => if other = cell then (value other).map fun _ => new else value other

/-- No waiting write takes the cell out of the set. -/
def Keeps (pending : List (Cell × Value)) (safe : Value → Prop) (cell : Cell) : Prop :=
  ∀ value, (cell, value) ∈ pending → safe value

/-- The cell is in the set, and no waiting write takes it out. -/
def Settled (state : State Cell Value) (safe : Value → Prop) (cell : Cell) : Prop :=
  (∃ value, state.value cell = some value ∧ safe value) ∧ Keeps state.pending safe cell

/-- A waiting write takes the known cell into the set, and none behind it takes it out. -/
def Covered (state : State Cell Value) (safe : Value → Prop) (cell : Cell) : Prop :=
  (∃ value, state.value cell = some value) ∧
    ∃ ahead value behind, state.pending = ahead ++ (cell, value) :: behind ∧ safe value ∧
      Keeps behind safe cell

variable {state : State Cell Value} {safe : Value → Prop} {cell other : Cell} {value : Value}

/-- A write that stays in the set, or is for another cell, may ask. -/
theorem Keeps.ask {pending : List (Cell × Value)} (keeps : Keeps pending safe cell)
    (harmless : other = cell → safe value) : Keeps (pending ++ [(other, value)]) safe cell := by
  intro later member
  rcases List.mem_append.mp member with earlier | last
  · exact keeps later earlier
  · obtain ⟨rfl, rfl⟩ : cell = other ∧ later = value := by simpa using last
    exact harmless rfl

/-- A settled cell stays settled when a harmless write asks. -/
theorem Settled.ask (settled : state.Settled safe cell) (harmless : other = cell → safe value) :
    (state.ask other value).Settled safe cell :=
  ⟨settled.1, settled.2.ask harmless⟩

/-- A covered cell stays covered when a harmless write asks. -/
theorem Covered.ask (covered : state.Covered safe cell) (harmless : other = cell → safe value) :
    (state.ask other value).Covered safe cell := by
  obtain ⟨known, ahead, entering, behind, pending, enters, keeps⟩ := covered
  refine ⟨known, ahead, entering, behind ++ [(other, value)], ?_, enters, keeps.ask harmless⟩
  simp [State.ask, pending]

section
variable [DecidableEq Cell] {rest : List (Cell × Value)}

/-- Writing keeps every known cell known. -/
theorem put_known {value : Cell → Option Value} {new : Value}
    (known : ∃ old, value cell = some old) : ∃ old, put value other new cell = some old := by
  obtain ⟨old, found⟩ := known
  by_cases same : cell = other
  · exact ⟨new, by simp [put, same.symm, found]⟩
  · exact ⟨old, by simp [put, same, found]⟩

/-- A settled cell stays settled when the next write is done. -/
theorem Settled.write (settled : state.Settled safe cell)
    (next : state.pending = (other, value) :: rest) :
    (State.mk (put state.value other value) rest).Settled safe cell := by
  obtain ⟨⟨old, found, inside⟩, keeps⟩ := settled
  rw [next] at keeps
  refine ⟨?_, fun later member => keeps later (List.mem_cons_of_mem _ member)⟩
  by_cases same : cell = other
  · subst same
    exact ⟨value, by simp [put, found], keeps value List.mem_cons_self⟩
  · exact ⟨old, by simp [put, same, found], inside⟩

/-- Writing into the set settles the cell, if no write behind takes it out. -/
theorem settled_write (known : ∃ old, state.value cell = some old) (inside : safe value)
    (keeps : Keeps rest safe cell) :
    (State.mk (put state.value cell value) rest).Settled safe cell := by
  obtain ⟨old, found⟩ := known
  exact ⟨⟨value, by simp [put, found], inside⟩, keeps⟩

/-- When the next write is done, a covered cell is still covered or settled. -/
theorem Covered.write (covered : state.Covered safe cell)
    (next : state.pending = (other, value) :: rest) :
    (State.mk (put state.value other value) rest).Covered safe cell ∨
      (State.mk (put state.value other value) rest).Settled safe cell := by
  obtain ⟨known, ahead, entering, behind, pending, enters, keeps⟩ := covered
  rw [next] at pending
  cases ahead with
  | nil =>
    obtain ⟨⟨rfl, rfl⟩, rfl⟩ : (other = cell ∧ value = entering) ∧ rest = behind := by
      simpa using pending
    exact .inr (settled_write known enters keeps)
  | cons first ahead =>
    obtain ⟨rfl, rfl⟩ : (other, value) = first ∧ rest = ahead ++ (cell, entering) :: behind := by
      simpa using pending
    exact .inl ⟨put_known known, ahead, entering, behind, rfl, enters, keeps⟩

end

/-- Values that change by themselves keep a settled cell settled if its value stays inside. -/
theorem Settled.drift (settled : state.Settled safe cell) {value' : Cell → Option Value}
    (inside : ∀ value, state.value cell = some value → safe value →
      ∃ new, value' cell = some new ∧ safe new) :
    (State.mk value' state.pending).Settled safe cell := by
  obtain ⟨⟨value, found, holds⟩, keeps⟩ := settled
  exact ⟨inside value found holds, keeps⟩

/-- Values that change by themselves keep a covered cell covered if it stays known. -/
theorem Covered.drift (covered : state.Covered safe cell) {value' : Cell → Option Value}
    (stays : (∃ value, state.value cell = some value) → ∃ value, value' cell = some value) :
    (State.mk value' state.pending).Covered safe cell :=
  ⟨stays covered.1, covered.2⟩

end State

end Deferred
