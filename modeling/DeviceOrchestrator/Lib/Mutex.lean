import DeviceOrchestrator.Lib.Slots

/-!
# One lock for each key

Calls in numbered slots each want the lock of their key, and some are inside it. A table of locks
keeps two calls of one key from being inside together (`Exclusive`) when a call goes inside only
through a free lock. Which waiting call gets a free lock is left open.
-/
namespace Mutex

universe u v

variable {Call : Type u} {Key : Type v} (key : Call → Key) (inside : Call → Bool)

/-- No two calls are inside the lock of one key. -/
def Exclusive (calls : List Call) : Prop :=
  ∀ (first second : Nat) (one two : Call), calls[first]? = some one →
    calls[second]? = some two → inside one = true → inside two = true → key one = key two →
    first = second

/-- Nobody is inside the lock of a key. -/
def free [DecidableEq Key] (calls : List Call) (wanted : Key) : Bool :=
  calls.all fun call => !(inside call && key call = wanted)

variable {key inside}

/-- Nobody is inside a free lock. -/
theorem outside [DecidableEq Key] {calls : List Call} {wanted : Key} {slot : Nat} {call : Call}
    (open_ : free key inside calls wanted = true) (found : calls[slot]? = some call)
    (within : inside call = true) : key call ≠ wanted := by
  intro same
  have clear := List.all_eq_true.mp open_ call (List.mem_of_getElem? found)
  simp [within, same] at clear

/-- No calls exclude each other. -/
theorem Exclusive.nil : Exclusive key inside [] := by
  intro first second one two found
  simp at found

/-- A new call starts outside. -/
theorem Exclusive.concat {calls : List Call} (exclusive : Exclusive key inside calls)
    {new : Call} (waits : inside new = false) : Exclusive key inside (calls ++ [new]) := by
  intro first second one two found found' within within' same
  rcases Slots.getElem?_concat found with ⟨-, rfl⟩ | ⟨-, earlier⟩
  · rw [waits] at within
    cases within
  · rcases Slots.getElem?_concat found' with ⟨-, rfl⟩ | ⟨-, earlier'⟩
    · rw [waits] at within'
      cases within'
    · exact exclusive first second one two earlier earlier' within within' same

/-- **A call moves.** It may go inside where it was inside, and where nobody else is. -/
theorem Exclusive.set {calls : List Call} (exclusive : Exclusive key inside calls) {slot : Nat}
    {old new : Call} (found : calls[slot]? = some old) (keeps : key new = key old)
    (enters : inside new = true → inside old = true ∨
      ∀ (other : Nat) (call : Call), calls[other]? = some call → inside call = true →
        key call ≠ key old) :
    Exclusive key inside (calls.set slot new) := by
  have alone : inside new = true → ∀ (other : Nat) (call : Call), other ≠ slot →
      calls[other]? = some call → inside call = true → key call ≠ key new := by
    intro within other call apart there within' same
    rcases enters within with before | clear
    · exact apart (exclusive other slot call old there found within' before
        (same.trans keeps))
    · exact clear other call there within' (same.trans keeps)
  intro first second one two there there' within within' same
  rcases Slots.getElem?_rewritten there with ⟨rfl, rfl⟩ | ⟨apart, earlier⟩
  · rcases Slots.getElem?_rewritten there' with ⟨rfl, -⟩ | ⟨apart, earlier⟩
    · rfl
    · exact absurd same.symm (alone within second two apart earlier within')
  · rcases Slots.getElem?_rewritten there' with ⟨rfl, rfl⟩ | ⟨-, earlier'⟩
    · exact absurd same (alone within' first one apart earlier within)
    · exact exclusive first second one two earlier earlier' within within' same

end Mutex
