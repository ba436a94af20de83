import Mathlib.Algebra.Order.BigOperators.Group.List
import Mathlib.Algebra.Order.Ring.Nat
import DeviceOrchestrator.Lib.Run

/-!
# Potentials

A potential is a bound on the work that a state can still cause. When every counted step is paid
for by the potential or by a paying step, a whole run takes no more counted steps than its start
and its paying steps allow.
-/
namespace Potential

open Transition

universe u v

variable {State : Type u} {Action : Type v} {step : Machine State Action}
variable {allowed : State → Action → Prop} {start finish : State}

/-- **Amortised bound.** -/
theorem amortised (potential : State → Nat) (counts : Taken State Action → Bool)
    (pays : Taken State Action → Nat)
    (covered : ∀ {state action after}, Run step allowed start state → allowed state action →
      step state action = some after →
      (counts ⟨state, action, after⟩).toNat + potential after ≤
        potential state + pays ⟨state, action, after⟩)
    {past : List (Taken State Action)} (history : History step allowed start past finish) :
    past.countP counts + potential finish ≤ potential start + (past.map pays).sum := by
  induction history with
  | refl => simp
  | @next past state after action earlier may taken ih =>
    have paid := covered earlier.run may taken
    rw [List.countP_cons, List.map_cons, List.sum_cons]
    cases counted : counts ⟨state, action, after⟩ <;>
      simp only [counted, Bool.toNat_true, Bool.toNat_false, if_true, if_false,
        Bool.false_eq_true] at paid ⊢ <;> omega

/-- Steps that all pay the same pay for their number. -/
theorem sum_price (price : Nat) (pays : Taken State Action → Bool)
    (past : List (Taken State Action)) :
    (past.map fun taken => price * (pays taken).toNat).sum = price * past.countP pays := by
  induction past with
  | nil => rfl
  | cons taken past ih =>
    rw [List.map_cons, List.sum_cons, ih, List.countP_cons]
    cases pays taken <;> simp [Nat.mul_add, Nat.add_comm]

/-- **A machine with a potential comes to rest.** Where every allowed step uses up potential, from
every state there is a run to one in which no allowed step is left. -/
theorem comes_to_rest (potential : State → Nat) (Good : State → Prop)
    (kept : ∀ {state action after}, Good state → allowed state action →
      step state action = some after → Good after)
    (used : ∀ {state action after}, Good state → allowed state action →
      step state action = some after → potential after < potential state) (good : Good start) :
    ∃ past finish, History step allowed start past finish ∧
      ∀ action, allowed finish action → step finish action = none := by
  have longer : ∀ bound past state, History step allowed start past state → Good state →
      potential state ≤ bound → ∃ past finish, History step allowed start past finish ∧
        ∀ action, allowed finish action → step finish action = none := by
    intro bound
    induction bound with
    | zero =>
      intro past state history good small
      refine ⟨past, state, history, fun action may => ?_⟩
      cases taken : step state action with
      | none => rfl
      | some after =>
        have less := used good may taken
        omega
    | succ bound ih =>
      intro past state history good small
      by_cases rests : ∀ action, allowed state action → step state action = none
      · exact ⟨past, state, history, rests⟩
      · simp only [not_forall] at rests
        obtain ⟨action, may, moves⟩ := rests
        obtain ⟨after, taken⟩ := Option.ne_none_iff_exists'.mp moves
        have less := used good may taken
        exact ih _ after (history.next may taken) (kept good may taken) (by omega)
  exact longer (potential start) [] start .refl good le_rfl

section
variable {Party : Type u} {slots : List Party} {slot : Nat} {old : Party}

/-- Rewriting a slot exchanges the weight of its occupant. -/
theorem sum_set (weight : Party → Nat) (found : slots[slot]? = some old) (new : Party) :
    ((slots.set slot new).map weight).sum + weight old = (slots.map weight).sum + weight new := by
  induction slots generalizing slot with
  | nil => cases found
  | cons first rest ih =>
    cases slot with
    | zero =>
      obtain rfl := Option.some.inj found
      simp only [List.set_cons_zero, List.map_cons, List.sum_cons]
      omega
    | succ slot =>
      have later := @ih slot found
      simp only [List.set_cons_succ, List.map_cons, List.sum_cons]
      omega

/-- Erasing a slot removes the weight of its occupant. -/
theorem sum_eraseIdx (weight : Party → Nat) (found : slots[slot]? = some old) :
    ((slots.eraseIdx slot).map weight).sum + weight old = (slots.map weight).sum := by
  obtain ⟨bound, rfl⟩ := List.getElem?_eq_some_iff.mp found
  rw [← ((List.getElem_cons_eraseIdx_perm bound).map weight).sum_eq, List.map_cons, List.sum_cons]
  omega

/-- A sum of lighter weights is smaller. -/
theorem sum_lighter {lighter weight : Party → Nat} (slots : List Party)
    (below : ∀ party, lighter party ≤ weight party) :
    (slots.map lighter).sum ≤ (slots.map weight).sum :=
  List.sum_le_sum fun party _ => below party

end

end Potential
