import DeviceOrchestrator.Lib.Run

/-!
# Monitors

Parties share a state under a lock. A party whose want the state does not meet goes to sleep on
it, and whoever changes the state wakes the sleepers before the lock is free again. A move of
such a monitor meets no new want and puts nobody to sleep, or puts a party to sleep on an unmet
want, or leaves nobody asleep. Over a run of such moves nobody sleeps on a want that is met.
-/

universe u v w x

/-- A shared state, and what each party that is asleep wants of it. -/
structure Monitor (Shared : Type u) (Want : Type v) where
  /-- The state under the lock. -/
  shared : Shared
  /-- The want that a party sleeps on and was not woken from. -/
  sleeper : Nat → Option Want

namespace Monitor

variable {Shared : Type u} {Want : Type v} (met : Shared → Want → Prop)

/-- Nobody sleeps on a want that is met. -/
def Watched (monitor : Monitor Shared Want) : Prop :=
  ∀ party want, monitor.sleeper party = some want → ¬ met monitor.shared want

/-- What one step may do to a monitor. -/
inductive Move (before after : Monitor Shared Want) : Prop
  /-- No new want is met, and nobody goes to sleep. -/
  | narrowed (wants : ∀ want, met after.shared want → met before.shared want)
      (sleepers : ∀ party want, after.sleeper party = some want →
        before.sleeper party = some want)
  /-- A party that found its want unmet goes to sleep on it. -/
  | dozed (want : Want) (unmet : ¬ met before.shared want)
      (shared : after.shared = before.shared)
      (sleepers : ∀ party found, after.sleeper party = some found →
        found = want ∨ before.sleeper party = some found)
  /-- Nobody is asleep afterwards. -/
  | woken (sleepers : ∀ party, after.sleeper party = none)

variable {met}

/-- A monitor in which nobody sleeps is watched. -/
theorem Watched.of_awake {monitor : Monitor Shared Want}
    (awake : ∀ party, monitor.sleeper party = none) : Watched met monitor := by
  intro party want asleep
  rw [awake party] at asleep
  cases asleep

/-- **A move keeps a monitor watched.** -/
theorem Move.watched {before after : Monitor Shared Want} (move : Move met before after)
    (watched : Watched met before) : Watched met after := by
  intro party want asleep
  cases move with
  | narrowed wants sleepers =>
    have unmet : ¬ met before.shared want := watched party want (sleepers party want asleep)
    exact fun now => unmet (wants want now)
  | dozed wanted unmet shared sleepers =>
    rw [shared]
    rcases sleepers party want asleep with same | earlier
    · rw [same]
      exact unmet
    · exact watched party want earlier
  | woken sleepers => exact Watched.of_awake sleepers party want asleep

/-- **Nobody sleeps on a met want over a whole run.** The steps of a machine move the monitor
that a view sees in it, where an invariant holds that they keep. -/
theorem watched_run {State : Type w} {Action : Type x} {step : Transition.Machine State Action}
    {allowed : State → Action → Prop} {start finish : State} (view : State → Monitor Shared Want)
    (Holds : State → Prop) (initially : Holds start) (awake : Watched met (view start))
    (kept : ∀ {state action after}, Holds state → allowed state action →
      step state action = some after → Holds after ∧ Move met (view state) (view after))
    (run : Transition.Run step allowed start finish) :
    Holds finish ∧ Watched met (view finish) := by
  apply run.invariant (fun state => Holds state ∧ Watched met (view state)) ⟨initially, awake⟩
  intro state action after _ both may taken
  have later := kept both.1 may taken
  exact ⟨later.1, later.2.watched both.2⟩

end Monitor
