import Mathlib.Algebra.Order.Group.Defs
import Mathlib.Data.List.Basic
import Mathlib.Tactic.Linarith

/-!
# Events in a sliding window

Times are counted from a cut on. A list of times is bounded by a number in windows of a width
when no window of that width holds more of them (`Within`). A new latest time keeps the bound
when fewer times lie in the window that ends with it (`Within.push`), and discarding times below
a cut changes no count from a later cut on (`since_prune`).
-/
namespace Window

universe u

variable {Time : Type u} [LinearOrder Time]

/-- How many times lie at or after a cut. -/
def since (cut : Time) (times : List Time) : Nat := times.countP fun time => decide (cut ≤ time)

/-- How many times lie after a cut. -/
def beyond (cut : Time) (times : List Time) : Nat := times.countP fun time => decide (cut < time)

/-- Discarding times below a cut changes no count from a later cut on. -/
theorem since_prune {cut later : Time} (order : cut ≤ later) (times : List Time) :
    since later (times.filter fun time => decide (cut ≤ time)) = since later times := by
  rw [since, List.countP_filter]
  refine List.countP_congr fun time _ => ?_
  simp only [Bool.and_eq_true, decide_eq_true_eq]
  exact ⟨And.left, fun late => ⟨late, order.trans late⟩⟩

/-- What is left when times below a cut are discarded is what lies from the cut on. -/
theorem length_prune (cut : Time) (times : List Time) :
    (times.filter fun time => decide (cut ≤ time)).length = since cut times := by
  rw [since, List.countP_eq_length_filter]

/-- One more time at the end. -/
theorem since_append (cut new : Time) (times : List Time) :
    since cut (times ++ [new]) = since cut times + if cut ≤ new then 1 else 0 := by
  simp [since, List.countP_append, List.countP_cons]

/-- Fewer times lie after a later cut. -/
theorem beyond_anti {cut later : Time} (order : cut ≤ later) (times : List Time) :
    beyond later times ≤ beyond cut times :=
  List.countP_mono_left fun time _ late => by
    simp only [decide_eq_true_eq] at late ⊢
    exact order.trans_lt late

section
variable [AddCommGroup Time]

/-- No window of the width holds more times than the bound. -/
def Within (width : Time) (bound : Nat) (times : List Time) : Prop :=
  ∀ opening, (times.countP fun time =>
    decide (opening ≤ time ∧ time < opening + width)) ≤ bound

variable {width now : Time} {bound : Nat} {times : List Time}

/-- Nothing has happened. -/
theorem Within.nil : Within width bound ([] : List Time) := fun _ => Nat.zero_le _

variable [IsOrderedAddMonoid Time]

/-- A new latest time with fewer times in the window that ends with it keeps the bound. -/
theorem Within.push (within : Within width bound times)
    (few : beyond (now - width) times < bound) : Within width bound (now :: times) := by
  intro opening
  rw [List.countP_cons]
  by_cases inside : opening ≤ now ∧ now < opening + width
  · have fewer : (times.countP fun time =>
        decide (opening ≤ time ∧ time < opening + width)) ≤ beyond (now - width) times := by
      refine List.countP_mono_left fun time _ there => ?_
      simp only [decide_eq_true_eq] at there ⊢
      have latest : now - width < opening := sub_lt_iff_lt_add.mpr inside.2
      exact latest.trans_le there.1
    simp only [inside, and_self, decide_true, if_true]
    omega
  · simp only [inside, decide_false, Bool.false_eq_true, if_false]
    exact within opening

/-- A bound for windows of a width is a bound for every interval shorter than the width. -/
theorem Within.interval (within : Within width bound times) {opening closing : Time}
    (short : closing - opening < width) :
    (times.countP fun time => decide (opening ≤ time ∧ time ≤ closing)) ≤ bound := by
  refine le_trans (List.countP_mono_left fun time _ there => ?_) (within opening)
  simp only [decide_eq_true_eq] at there ⊢
  have early : closing < opening + width := by
    rw [add_comm]
    exact sub_lt_iff_lt_add.mp short
  exact ⟨there.1, there.2.trans_lt early⟩

end

end Window
