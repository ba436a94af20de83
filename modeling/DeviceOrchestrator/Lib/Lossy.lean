import Mathlib.Data.List.Basic
import Mathlib.Data.List.Perm.Basic

/-!
# Queues that drop their oldest entry

A bounded queue between a producer and a consumer drops its oldest entry to make room for a new
one. `Accounted` relates everything that was offered to what was delivered, what was dropped and
what is still queued: the queue is the end of what was offered, and everything before it was either
delivered or dropped, each in order. It has one rule for each thing that can happen to the queue.
-/
namespace Lossy

universe u

variable {Entry : Type u} {offered delivered dropped queue rest : List Entry} {entry oldest : Entry}

/-- Everything offered was delivered, was dropped or is queued. -/
structure Accounted (offered delivered dropped queue : List Entry) : Prop where
  /-- What is no longer queued was offered before all that is. -/
  split : ∃ gone, offered = gone ++ queue ∧ delivered.Sublist gone ∧ dropped.Sublist gone ∧
    (delivered ++ dropped).Perm gone

/-- Nothing was offered. -/
theorem Accounted.nil : Accounted ([] : List Entry) [] [] [] :=
  ⟨⟨[], rfl, .slnil, .slnil, .nil⟩⟩

/-- There is room for a new entry. -/
theorem Accounted.offer (accounted : Accounted offered delivered dropped queue) (entry : Entry) :
    Accounted (offered ++ [entry]) delivered dropped (queue ++ [entry]) := by
  obtain ⟨gone, rfl, inOrder, lost, all⟩ := accounted.split
  exact ⟨⟨gone, by rw [List.append_assoc], inOrder, lost, all⟩⟩

/-- The oldest entry makes room for a new one. -/
theorem Accounted.drop (accounted : Accounted offered delivered dropped (oldest :: rest))
    (entry : Entry) :
    Accounted (offered ++ [entry]) delivered (dropped ++ [oldest]) (rest ++ [entry]) := by
  obtain ⟨gone, rfl, inOrder, lost, all⟩ := accounted.split
  refine ⟨⟨gone ++ [oldest], by simp, inOrder.trans (List.sublist_append_left _ _),
    lost.append_right _, ?_⟩⟩
  rw [← List.append_assoc]
  exact all.append_right [oldest]

/-- The oldest entry is delivered. -/
theorem Accounted.deliver (accounted : Accounted offered delivered dropped (oldest :: rest)) :
    Accounted offered (delivered ++ [oldest]) dropped rest := by
  obtain ⟨gone, rfl, inOrder, lost, all⟩ := accounted.split
  refine ⟨⟨gone ++ [oldest], by simp, inOrder.append_right _,
    lost.trans (List.sublist_append_left _ _), ?_⟩⟩
  have moved : (delivered ++ [oldest] ++ dropped).Perm (delivered ++ dropped ++ [oldest]) := by
    rw [List.append_assoc, List.append_assoc]
    exact List.perm_append_comm.append_left delivered
  exact moved.trans (all.append_right [oldest])

/-- **What is delivered and what is queued are everything offered but what was dropped**, in
order and without repetition. -/
theorem Accounted.kept (accounted : Accounted offered delivered dropped queue) :
    (delivered ++ queue).Sublist offered ∧ dropped.Sublist offered ∧
      (delivered ++ queue ++ dropped).Perm offered ∧
      (delivered ++ queue).length + dropped.length = offered.length := by
  obtain ⟨gone, rfl, inOrder, lost, all⟩ := accounted.split
  have together : (delivered ++ queue ++ dropped).Perm (gone ++ queue) := by
    have moved : (delivered ++ (queue ++ dropped)).Perm (delivered ++ (dropped ++ queue)) :=
      List.perm_append_comm.append_left delivered
    rw [List.append_assoc]
    rw [← List.append_assoc delivered dropped] at moved
    exact moved.trans (all.append_right queue)
  refine ⟨inOrder.append_right queue, lost.trans (List.sublist_append_left _ _), together, ?_⟩
  exact List.length_append.symm.trans together.length_eq

end Lossy
