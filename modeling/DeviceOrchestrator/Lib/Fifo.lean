import Mathlib.Data.List.Infix
import DeviceOrchestrator.Lib.Run

/-!
# First in, first out

A machine keeps a queue somewhere in its state. If every step takes at most the item at the front
or adds items at the back, then what was queued at the start of a history and what joined since are,
in order, what has left and what is queued at its end. So an item that was queued behind others
leaves only after all of them.
-/
namespace Fifo

open Transition

universe u v w

variable {State : Type u} {Action : Type v} {Item : Type w}

/-- What one step does to a queue. -/
inductive Moves (before after : List Item) : List Item → List Item → Prop
  /-- The item at the front leaves. -/
  | leaves (item : Item) : before = item :: after → Moves before after [item] []
  /-- Items join at the back. -/
  | joins (items : List Item) : after = before ++ items → Moves before after [] items

/-- What the steps of a history add up to, in the order of the steps. -/
def along (part : Taken State Action → List Item) (past : List (Taken State Action)) : List Item :=
  past.reverse.flatMap part

/-- One more step adds its part at the end. -/
@[simp]
theorem along_cons (part : Taken State Action → List Item) (taken : Taken State Action)
    (past : List (Taken State Action)) :
    along part (taken :: past) = along part past ++ part taken := by
  simp [along]

section
variable {step : Machine State Action} {allowed : State → Action → Prop} {start finish : State}

/-- **The order of a queue.** What was queued and what joined are what left and what is queued. -/
theorem conserved (queue : State → List Item) (leaving joining : Taken State Action → List Item)
    (moves : ∀ {state action after}, allowed state action → step state action = some after →
      Moves (queue state) (queue after) (leaving ⟨state, action, after⟩)
        (joining ⟨state, action, after⟩))
    {past : List (Taken State Action)} (history : History step allowed start past finish) :
    queue start ++ along joining past = along leaving past ++ queue finish := by
  induction history with
  | refl => simp [along]
  | @next past state after action earlier may taken ih =>
    have moved := moves may taken
    rw [along_cons, along_cons, ← List.append_assoc, ih]
    generalize leaving ⟨state, action, after⟩ = gone at moved ⊢
    generalize joining ⟨state, action, after⟩ = added at moved ⊢
    cases moved with
    | leaves item front => simp [front]
    | joins items back => simp [back]

end

/-- **Nothing overtakes.** Once an item that was queued last is no longer queued, all that was
queued has left. -/
theorem passed {front joined gone rest : List Item} {last : Item}
    (order : (front ++ [last]) ++ joined = gone ++ rest) (away : last ∉ rest) :
    (front ++ [last]) <+: gone := by
  have long : (front ++ [last]).length ≤ gone.length := by
    by_contra short
    -- Otherwise the last item is still in what is queued.
    have before : (front ++ [last])[front.length]? = some last := by simp
    have here : ((front ++ [last]) ++ joined)[front.length]? = some last := by
      rw [List.getElem?_append_left (by simp), before]
    rw [List.length_append, List.length_singleton] at short
    rw [order, List.getElem?_append_right (by omega)] at here
    exact away (List.mem_of_getElem? here)
  have both : (front ++ [last]) <+: gone ++ rest := ⟨joined, order⟩
  exact List.prefix_of_prefix_length_le both (List.prefix_append gone rest) long

end Fifo
