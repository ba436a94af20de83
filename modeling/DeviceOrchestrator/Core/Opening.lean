import DeviceOrchestrator.Core.Session

/-!
# Opening a session with backoff

`_open_with_backoff` from its first round to its end, with the calls it made. `Core.Session` has
the same code cut at its awaits; here one call runs alone, and a `FactoryRun` says what the factory
answers it and how long its awaits take.
-/
namespace DeviceOrchestrator

/-- What a factory answers the opens of one call, numbered from 1, and how long the awaits of each
round take. -/
structure FactoryRun where
  /-- The exception that `factory.open` raises, or the identifier of the handle. -/
  answer : Nat → Except String String
  /-- How long `factory.open` takes. -/
  openS : Nat → Rat
  /-- How long the sleep after it takes. -/
  sleepS : Nat → Rat
  /-- The clock is monotone. -/
  open_nonneg : ∀ attempt, 0 ≤ openS attempt
  /-- The clock is monotone. -/
  sleep_nonneg : ∀ attempt, 0 ≤ sleepS attempt

/-- When the clock stood at `now` before a round: where it stands so many rounds later. -/
def FactoryRun.startAt (factory : FactoryRun) (now : Rat) (attempt : Nat) : Nat → Rat
  | 0 => now
  | rounds + 1 =>
    factory.startAt (now + factory.openS attempt + factory.sleepS attempt) (attempt + 1) rounds

/-- A call that `_open_with_backoff` makes. -/
inductive OpenEvent
  /-- `factory.open`, and what it answers. -/
  | opens (startedAt : Rat) (answer : Except String String)
  /-- `asyncio.sleep`. -/
  | sleeps (startedAt delayS : Rat)

/-- The event is a call of `factory.open`. -/
def OpenEvent.isOpen : OpenEvent → Bool
  | opens _ _ => true
  | sleeps _ _ => false

/-- `_open_with_backoff` when it has ended. -/
structure Opening where
  /-- The calls it made, in order. -/
  events : List OpenEvent
  /-- How it ended. -/
  result : Except EnsureError ManagedHandle
  /-- The manager it leaves. -/
  world : SessionWorld

/-- The calls made before the rest. -/
def Opening.prepend (events : List OpenEvent) (rest : Opening) : Opening :=
  { rest with events := events ++ rest.events }

namespace SessionWorld

/-- Time passes. -/
def elapse (world : SessionWorld) (elapsedS : Rat) : SessionWorld :=
  { world with now := world.now + elapsedS }

/-- The tables with the handle made for the next driver. -/
def stored (world : SessionWorld) (call : EnsureCall) (id : String) : SessionWorld :=
  let handle := world.made call id
  { world with
    sessions := Function.update world.sessions call.key (some handle)
    generations := Function.update world.generations call.key handle.generation
    opened := world.opened ++ [handle] }

section
variable (config : SessionConfig) (factory : FactoryRun) (call : EnsureCall)

/-- The loop of `_open_with_backoff`, with the rounds that are left. -/
def openRounds : Nat → Nat → Option String → SessionWorld → Opening
  | 0, _, lastError, world =>
    let shown := lastError.getD "None"
    ⟨[], .error (.sessionError
      s!"could not open a {call.kind} session on {call.deviceId}: {shown}"), world⟩
  | rounds + 1, attempt, _, world =>
    if call.remainingS world.now ≤ 0 then
      ⟨[], .error (.sessionError "task deadline passed before a session opened"), world⟩
    else
      let answered := world.elapse (factory.openS attempt)
      let opens := OpenEvent.opens world.now (factory.answer attempt)
      match factory.answer attempt with
      | .ok id => ⟨[opens], .ok (answered.made call id), answered.stored call id⟩
      | .error reason =>
        match timesPowerOfTwo config.baseBackoffS (attempt - 1) with
        | .error error => ⟨[opens], .error (.python error), answered⟩
        | .ok grown =>
          if (attempt : Int) = config.maxOpenAttempts then
            ⟨[opens], .error (.sessionError
              s!"could not open a {call.kind} session on {call.deviceId}: {reason}"), answered⟩
          else
            let delayS := min (min config.maxBackoffS grown) (call.remainingS answered.now)
            (openRounds rounds (attempt + 1) (some reason)
              (answered.elapse (factory.sleepS attempt))).prepend
                [opens, .sleeps answered.now delayS]

/-- `_open_with_backoff`. -/
def openWithBackoff (world : SessionWorld) : Opening :=
  openRounds config factory call config.maxOpenAttempts.toNat 1 none world

end

end SessionWorld

end DeviceOrchestrator
