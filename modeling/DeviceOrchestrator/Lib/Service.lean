import DeviceOrchestrator.Lib.Mutex
import DeviceOrchestrator.Lib.Potential

/-!
# Services whose calls lock a key each

A machine that serves calls, each of which locks a key, waits and goes on when it is answered. If a
call that goes on has fewer steps before it, a call inside its lock can always be answered, and a
call outside can be let in once its lock is free (`Fair`), then the calls of one key end by their
own steps, whatever the calls of other keys wait for (`Fair.isolated`).
-/
namespace Mutex

open Transition

universe u v w x

section
variable {Call : Type w} {Key : Type x} {key : Call → Key} {inside : Call → Bool}
variable [DecidableEq Key] {rank : Call → Nat} {calls : List Call} {wanted : Key}

/-- A lock that nobody is inside is free. -/
theorem free_of_outside (outside : ∀ call ∈ calls, key call = wanted → inside call = false) :
    free key inside calls wanted = true := by
  rw [free, List.all_eq_true]
  intro call member
  by_cases same : key call = wanted
  · simp [outside call member same]
  · simp [same]

/-- What the calls of a key have before them, for a rank of each call. -/
def load (key : Call → Key) (rank : Call → Nat) (calls : List Call) (wanted : Key) : Nat :=
  (calls.map fun call => if key call = wanted then rank call else 0).sum

/-- A new call adds its rank to the load of its key. -/
theorem load_concat (calls : List Call) (new : Call) (wanted : Key) :
    load key rank (calls ++ [new]) wanted =
      load key rank calls wanted + if key new = wanted then rank new else 0 := by
  simp [load]

/-- **A call that goes on uses up load of its key, and of no other.** -/
theorem load_set {slot : Nat} {old new : Call} (found : calls[slot]? = some old)
    (keeps : key new = key old) (less : rank new < rank old) :
    (decide (key old = wanted)).toNat + load key rank (calls.set slot new) wanted ≤
      load key rank calls wanted := by
  have exchanged := Potential.sum_set (fun call => if key call = wanted then rank call else 0)
    found new
  simp only [keeps] at exchanged
  unfold load
  by_cases same : key old = wanted
  · simp only [same, if_true, decide_true, Bool.toNat_true] at exchanged ⊢
    omega
  · simp only [same, if_false, decide_false, Bool.toNat_false] at exchanged ⊢
    omega

end

/-- How a machine shows its calls. -/
structure Service (State : Type u) (Action : Type v) (Call : Type w) (Key : Type x) where
  /-- The calls so far. -/
  calls : State → List Call
  /-- The key a call locks. -/
  key : Call → Key
  /-- The call is inside the lock of its key. -/
  inside : Call → Bool
  /-- The call has ended. -/
  ended : Call → Bool
  /-- The steps that a call has before it, at most. -/
  rank : Call → Nat
  /-- The steps that a new call has before it, at most. -/
  full : Nat
  /-- The call that an action resumes. -/
  resumed? : Action → Option Nat
  /-- The key of the call that an action makes. -/
  asked? : Action → Option Key
  /-- The action gives a call what it awaits; others take it away. -/
  answers : Action → Bool

namespace Service

variable {State : Type u} {Action : Type v} {Call : Type w} {Key : Type x} [DecidableEq Key]
variable (service : Service State Action Call Key)

/-- A call of a key resumes. -/
def serves (wanted : Key) (state : State) (action : Action) : Bool :=
  (service.resumed? action).any fun slot =>
    (service.calls state)[slot]?.any fun call => service.key call = wanted

/-- A call of a key gets what it awaits. -/
def advances (wanted : Key) (state : State) (action : Action) : Bool :=
  service.serves wanted state action && service.answers action

/-- What the calls of a key have before them. -/
def work (wanted : Key) (state : State) : Nat :=
  load service.key service.rank (service.calls state) wanted

/-- No call of a key can go on, whatever it is answered. -/
def Stuck (step : Machine State Action) (wanted : Key) (state : State) : Prop :=
  ∀ action, service.advances wanted state action = true → step state action = none

/-- **How a service has to treat its calls.** -/
structure Fair (step : Machine State Action) : Prop where
  /-- A call that resumes has fewer steps before it, and no other call moves. -/
  moves : ∀ {state after : State} {action : Action} {slot : Nat},
    step state action = some after → service.resumed? action = some slot →
    ∃ old new, (service.calls state)[slot]? = some old ∧
      service.calls after = (service.calls state).set slot new ∧
      service.key new = service.key old ∧ service.rank new < service.rank old
  /-- A new call has no more than the full number of steps before it. -/
  asks : ∀ {state after : State} {action : Action} {key : Key},
    step state action = some after → service.resumed? action = none →
    service.asked? action = some key →
    ∃ new, service.calls after = service.calls state ++ [new] ∧ service.key new = key ∧
      service.rank new ≤ service.full
  /-- No other action moves a call. -/
  still : ∀ {state after : State} {action : Action},
    step state action = some after → service.resumed? action = none →
    service.asked? action = none → service.calls after = service.calls state
  /-- A call inside its lock can be answered. -/
  goes : ∀ {state : State} {slot : Nat} {call : Call},
    (service.calls state)[slot]? = some call → service.inside call = true →
    ∃ action, service.resumed? action = some slot ∧ service.answers action = true ∧
      (step state action).isSome = true
  /-- A call outside can be let in when its lock is free. -/
  enters : ∀ {state : State} {slot : Nat} {call : Call},
    (service.calls state)[slot]? = some call → service.inside call = false →
    service.ended call = false →
    free service.key service.inside (service.calls state) (service.key call) = true →
    ∃ action, service.resumed? action = some slot ∧ service.answers action = true ∧
      (step state action).isSome = true

variable {service} {step : Machine State Action} {state after : State} {action : Action}
variable {wanted : Key} {slot : Nat} {call : Call}

/-- What serves a key resumes one of its calls. -/
theorem serves_resumed (serves : service.serves wanted state action = true) :
    ∃ slot call, service.resumed? action = some slot ∧
      (service.calls state)[slot]? = some call ∧ service.key call = wanted := by
  obtain ⟨slot, resumed, found⟩ := (Option.any_eq_true _ _).mp serves
  obtain ⟨call, there, own⟩ := (Option.any_eq_true _ _).mp found
  exact ⟨slot, call, resumed, there, of_decide_eq_true own⟩

namespace Fair

/-- **Each step is covered.** A step of a call of the key uses up work, a new call adds what it has
before it, and no other step adds any. -/
theorem covered (fair : service.Fair step) (wanted : Key)
    (taken : step state action = some after) :
    (service.serves wanted state action).toNat + service.work wanted after ≤
      service.work wanted state +
        service.full * (decide (service.asked? action = some wanted)).toNat := by
  cases resumed : service.resumed? action with
  | some slot =>
    obtain ⟨old, new, found, calls, keeps, less⟩ := fair.moves taken resumed
    have used : (decide (service.key old = wanted)).toNat +
        load service.key service.rank ((service.calls state).set slot new) wanted ≤
          service.work wanted state := load_set found keeps less
    have mover : service.serves wanted state action = decide (service.key old = wanted) := by
      simp [serves, resumed, found]
    rw [mover, work, calls]
    omega
  | none =>
    have idle : service.serves wanted state action = false := by
      simp [serves, resumed]
    rw [idle, Bool.toNat_false]
    cases asked : service.asked? action with
    | none =>
      rw [work, fair.still taken resumed asked, work]
      omega
    | some key =>
      obtain ⟨new, calls, own, light⟩ := fair.asks taken resumed asked
      rw [work, calls, load_concat, work, own]
      by_cases same : key = wanted
      · simp only [same, if_true, decide_true, Bool.toNat_true]
        omega
      · simp [same]

/-- The calls of a key leave the calls of other keys where they are. -/
theorem frame (fair : service.Fair step) (advances : service.advances wanted state action = true)
    (taken : step state action = some after) (found : (service.calls state)[slot]? = some call)
    (apart : service.key call ≠ wanted) : (service.calls after)[slot]? = some call := by
  obtain ⟨other, mover, resumed, moved, own⟩ :=
    serves_resumed (Bool.and_eq_true_iff.mp advances).1
  obtain ⟨old, new, there, calls, -, -⟩ := fair.moves taken resumed
  have elsewhere : other ≠ slot := by
    rintro rfl
    obtain rfl := Option.some.inj (found.symm.trans moved)
    exact apart own
  rw [calls, List.getElem?_set_ne elsewhere]
  exact found

/-- The calls of a key come to rest. -/
theorem comes_to_rest (fair : service.Fair step) (wanted : Key) (start : State) :
    ∃ past finish, History step (fun state action => service.advances wanted state action = true)
      start past finish ∧ service.Stuck step wanted finish := by
  apply Potential.comes_to_rest (service.work wanted) (fun _ => True)
  · exact fun _ _ _ => trivial
  · intro state action after _ advances taken
    obtain ⟨slot, mover, resumed, found, own⟩ :=
      serves_resumed (Bool.and_eq_true_iff.mp advances).1
    obtain ⟨old, new, there, calls, keeps, less⟩ := fair.moves taken resumed
    obtain rfl := Option.some.inj (found.symm.trans there)
    have used : (decide (service.key mover = wanted)).toNat +
        load service.key service.rank ((service.calls state).set slot new) wanted ≤
          service.work wanted state := load_set there keeps less
    rw [decide_eq_true own, Bool.toNat_true] at used
    rw [work, calls]
    omega
  · trivial

/-- Where a key is stuck, no answer helps its calls. -/
theorem unanswered (stuck : service.Stuck step wanted state)
    (found : (service.calls state)[slot]? = some call) (own : service.key call = wanted) :
    ¬∃ action, service.resumed? action = some slot ∧ service.answers action = true ∧
      (step state action).isSome = true := by
  rintro ⟨action, resumed, answers, goes⟩
  have advances : service.advances wanted state action = true := by
    simp [Service.advances, serves, resumed, found, own, answers]
  rw [stuck action advances] at goes
  cases goes

/-- **Nobody waits in a circle.** Where no call of a key can go on, its lock is free and all its
calls have ended. -/
theorem settled (fair : service.Fair step) (stuck : service.Stuck step wanted state) :
    free service.key service.inside (service.calls state) wanted = true ∧
      ∀ call ∈ service.calls state, service.key call = wanted → service.ended call = true := by
  have outside : ∀ call ∈ service.calls state, service.key call = wanted →
      service.inside call = false := by
    intro call member own
    obtain ⟨slot, found⟩ := List.getElem?_of_mem member
    cases inside : service.inside call with
    | false => rfl
    | true => exact absurd (fair.goes found inside) (unanswered stuck found own)
  have clear := free_of_outside outside
  refine ⟨clear, fun call member own => ?_⟩
  obtain ⟨slot, found⟩ := List.getElem?_of_mem member
  cases ended : service.ended call with
  | true => rfl
  | false =>
    rw [← own] at clear
    exact absurd (fair.enters found (outside call member own) ended clear)
      (unanswered stuck found own)

/-- **The calls of one key settle by themselves.** Their number of steps is bounded, they can be
brought to an end while all other calls stay where they are, and where none of them can go on the
lock is free and all of them have ended. -/
theorem isolated (fair : service.Fair step) (wanted : Key) (start : State) :
    (∀ past finish, History step (fun _ _ => True) start past finish →
      past.countP (fun taken => service.serves wanted taken.before taken.action) +
        service.work wanted finish ≤ service.work wanted start +
          service.full * past.countP fun taken =>
            decide (service.asked? taken.action = some wanted)) ∧
    (∃ past finish,
      History step (fun state action => service.advances wanted state action = true) start past
        finish ∧ service.Stuck step wanted finish ∧
      ∀ (slot : Nat) (call : Call), (service.calls start)[slot]? = some call →
        service.key call ≠ wanted → (service.calls finish)[slot]? = some call) ∧
    (service.Stuck step wanted start →
      free service.key service.inside (service.calls start) wanted = true ∧
        ∀ call ∈ service.calls start, service.key call = wanted → service.ended call = true) := by
  refine ⟨fun past finish history => ?_, ?_, fair.settled⟩
  · rw [← Potential.sum_price]
    apply Potential.amortised (service.work wanted) _ _ _ history
    intro state action after _ _ taken
    exact fair.covered wanted taken
  · obtain ⟨past, finish, history, stuck⟩ := fair.comes_to_rest wanted start
    refine ⟨past, finish, history, stuck, ?_⟩
    apply history.run.invariant (fun state => ∀ (slot : Nat) (call : Call),
      (service.calls start)[slot]? = some call → service.key call ≠ wanted →
        (service.calls state)[slot]? = some call) (fun _ _ found _ => found)
    intro state action after _ kept advances taken slot call found apart
    exact fair.frame advances taken (kept slot call found apart) apart

end Fair

end Service

end Mutex
