import DeviceOrchestrator.Core.Scheduler
import DeviceOrchestrator.Core.Target
import DeviceOrchestrator.Lib.Mutex
import DeviceOrchestrator.Lib.Run

/-!
# The session manager as a step function

`SessionManager` keeps one handle for each device and kind. Each call of `ensure` is an
`EnsureCall`, suspended at an `EnsureStage`: at the lock of its key, in `factory.check`,
`factory.close` or `factory.open`, or in the sleep between two opens. `invalidate` and `close_all`
take no lock and do not suspend. A driver is named by the number of the open that returned it;
`opened` and `closed` record what the factories were asked to do.
-/
namespace DeviceOrchestrator

/-- The key of a session. -/
abbrev SessionKey := DeviceId × String

/-- A handle with the fields that only the manager reads. -/
structure ManagedHandle extends SessionHandle where
  /-- The device it is on. -/
  deviceId : DeviceId
  /-- The kind of its factory. -/
  kind : String
  /-- What `factory.open` returned. -/
  driver : Nat
  /-- When it was opened. -/
  openedAt : Rat
  deriving DecidableEq

/-- The key a handle is stored under. -/
def ManagedHandle.key (handle : ManagedHandle) : SessionKey := (handle.deviceId, handle.kind)

/-- What the manager is built with. -/
structure SessionConfig where
  /-- Opens in one call of `ensure`. -/
  maxOpenAttempts : Int := 3
  /-- First delay after a failed open. -/
  baseBackoffS : Rat := 1
  /-- Cap of the delay after a failed open. -/
  maxBackoffS : Rat := 15
  /-- Handles older than this are replaced. -/
  maxAgeS : Option Rat := some 1800

/-- `_too_old`. -/
def SessionConfig.tooOld (config : SessionConfig) (handle : ManagedHandle) (now : Rat) : Bool :=
  config.maxAgeS.any fun maxAgeS => maxAgeS < now - handle.openedAt

/-- How a call of `ensure` raises. -/
inductive EnsureError
  /-- `SessionError`. -/
  | sessionError (message : String)
  /-- A built-in exception. -/
  | python (error : PyError)
  /-- `asyncio.CancelledError`. -/
  | cancelled
  deriving DecidableEq

/-- The awaits of `ensure`, and how it ends. -/
inductive EnsureStage
  /-- It awaits the lock of its key. -/
  | locking
  /-- It awaits `factory.check`. -/
  | checking (handle : ManagedHandle)
  /-- `_discard` awaits `factory.close`. -/
  | closing (handle : ManagedHandle)
  /-- `_open_with_backoff` awaits `factory.open`. -/
  | opening (attempt : Nat) (lastError : Option String)
  /-- `_open_with_backoff` sleeps. -/
  | sleeping (attempt : Nat) (delayS : Rat) (lastError : Option String)
  /-- It returned a handle. -/
  | returned (handle : ManagedHandle)
  /-- It raised. -/
  | raised (error : EnsureError)
  deriving DecidableEq

namespace EnsureStage

/-- Holds the lock of its key. -/
def inside : EnsureStage → Bool
  | checking _ | closing _ | opening _ _ | sleeping _ _ _ => true
  | locking | returned _ | raised _ => false

/-- The call has ended. -/
def finished : EnsureStage → Bool
  | returned _ | raised _ => true
  | _ => false

/-- The handle under check. -/
def checked? : EnsureStage → Option ManagedHandle
  | checking handle => some handle
  | _ => none

/-- The handle returned. -/
def returned? : EnsureStage → Option ManagedHandle
  | returned handle => some handle
  | _ => none

end EnsureStage

/-- A call of `ensure`. -/
structure EnsureCall where
  /-- The device. -/
  deviceId : DeviceId
  /-- The kind of the factory. -/
  kind : String
  /-- `ctx.deadline`. -/
  deadline : Rat
  /-- Where it is suspended. -/
  stage : EnsureStage
  deriving DecidableEq

/-- The key a call locks. -/
def EnsureCall.key (call : EnsureCall) : SessionKey := (call.deviceId, call.kind)

/-- A call holds the lock of its key. -/
def EnsureCall.inside (call : EnsureCall) : Bool := call.stage.inside

/-- `ctx.remaining_s()`. -/
def EnsureCall.remainingS (call : EnsureCall) (now : Rat) : Rat := max 0 (call.deadline - now)

/-- `SessionManager`, the calls of `ensure` made on it and what they asked of the factories. -/
structure SessionWorld where
  /-- `time.monotonic()`. -/
  now : Rat := 0
  /-- `_sessions`. -/
  sessions : SessionKey → Option ManagedHandle := fun _ => none
  /-- `_generations`; a missing entry reads 0. -/
  generations : SessionKey → Nat := fun _ => 0
  /-- Every call of `ensure` so far. -/
  calls : List EnsureCall := []
  /-- The handles made for the drivers that `factory.open` returned, in order. -/
  opened : List ManagedHandle := []
  /-- The drivers passed to `factory.close`, in order. -/
  closed : List Nat := []

/-- What an await of `ensure` answers. -/
inductive EnsureAnswer
  /-- The lock of the key is given. -/
  | locked
  /-- `_check_quietly` answers; a check that raises answers `False`. -/
  | checked (ok : Bool)
  /-- `factory.close` returns or raises an ordinary exception. -/
  | closed
  /-- `factory.open` returns a driver, and its handle gets an identifier. -/
  | opened (id : String)
  /-- `factory.open` raises an ordinary exception. -/
  | openFailed (reason : String)
  /-- The sleep is over. -/
  | slept
  /-- The call is cancelled. -/
  | cancelled
  deriving DecidableEq

/-- Who calls the manager, and which call resumes. -/
inductive SessionAction
  /-- `ensure` is called. -/
  | ensure (deviceId : DeviceId) (kind : String) (deadline : Rat)
  /-- A call resumes with what its await answered. -/
  | resume (call : Nat) (answer : EnsureAnswer)
  /-- `invalidate`. -/
  | invalidate (deviceId : DeviceId) (kind : Option String)
  /-- `close_all`. -/
  | closeAll
  /-- Time passes. -/
  | tick (elapsedS : Rat)
  deriving DecidableEq

/-- The keys whose handles `invalidate` and `close_all` drop. -/
def SessionAction.drops (key : SessionKey) : SessionAction → Bool
  | invalidate deviceId kind => key.1 = deviceId && kind.all fun kind => key.2 = kind
  | closeAll => true
  | _ => false

namespace SessionWorld

/-- Nobody holds the lock of a key. -/
def free (world : SessionWorld) (key : SessionKey) : Bool :=
  Mutex.free EnsureCall.key EnsureCall.inside world.calls key

/-- A call goes on to its next await. -/
def move (world : SessionWorld) (index : Nat) (call : EnsureCall) (stage : EnsureStage) :
    SessionWorld :=
  { world with calls := world.calls.set index { call with stage := stage } }

/-- The head of the loop of `_open_with_backoff`. -/
def attempt (config : SessionConfig) (world : SessionWorld) (call : EnsureCall) (number : Nat)
    (lastError : Option String) : EnsureStage :=
  if config.maxOpenAttempts < number then
    let shown := lastError.getD "None"
    .raised (.sessionError s!"could not open a {call.kind} session on {call.deviceId}: {shown}")
  else if call.remainingS world.now ≤ 0 then
    .raised (.sessionError "task deadline passed before a session opened")
  else .opening number lastError

/-- What `_open_with_backoff` does with a failed open. The delay is computed first, and overflows
for a large attempt. -/
def openFailed (config : SessionConfig) (world : SessionWorld) (call : EnsureCall) (number : Nat)
    (reason : String) : EnsureStage :=
  match timesPowerOfTwo config.baseBackoffS (number - 1) with
  | .error error => .raised (.python error)
  | .ok grown =>
    if (number : Int) = config.maxOpenAttempts then
      .raised (.sessionError s!"could not open a {call.kind} session on {call.deviceId}: {reason}")
    else
      .sleeping number (min (min config.maxBackoffS grown) (call.remainingS world.now))
        (some reason)

/-- `_discard`, up to `factory.close`. -/
def discard (world : SessionWorld) (index : Nat) (call : EnsureCall) (handle : ManagedHandle) :
    SessionWorld :=
  { world.move index call (.closing handle) with
    sessions := Function.update world.sessions call.key none
    closed := world.closed ++ [handle.driver] }

/-- The handle made for the next driver. -/
def made (world : SessionWorld) (call : EnsureCall) (id : String) : ManagedHandle where
  id := id
  generation := world.generations call.key + 1
  deviceId := call.deviceId
  kind := call.kind
  driver := world.opened.length
  openedAt := world.now

/-- A driver is there: its handle is stored and returned. -/
def store (world : SessionWorld) (index : Nat) (call : EnsureCall) (id : String) : SessionWorld :=
  let handle := world.made call id
  { world.move index call (.returned handle) with
    sessions := Function.update world.sessions call.key (some handle)
    generations := Function.update world.generations call.key handle.generation
    opened := world.opened ++ [handle] }

/-- `ensure`, from the lock to its first await. -/
def enter (config : SessionConfig) (world : SessionWorld) (index : Nat) (call : EnsureCall) :
    SessionWorld :=
  match world.sessions call.key with
  | none => world.move index call (world.attempt config call 1 none)
  | some handle =>
    if config.tooOld handle world.now then world.discard index call handle
    else world.move index call (.checking handle)

/-- What a call does when its await answers, up to the next await. -/
def resume (config : SessionConfig) (world : SessionWorld) (index : Nat) (call : EnsureCall)
    (answer : EnsureAnswer) : Option SessionWorld :=
  match call.stage, answer with
  | .locking, .locked => if world.free call.key then some (world.enter config index call) else none
  | .checking handle, .checked ok =>
    some (if ok then world.move index call (.returned handle) else world.discard index call handle)
  | .closing _, .closed => some (world.move index call (world.attempt config call 1 none))
  | .opening _ _, .opened id => some (world.store index call id)
  | .opening number _, .openFailed reason =>
    some (world.move index call (world.openFailed config call number reason))
  | .sleeping number _ lastError, .slept =>
    some (world.move index call (world.attempt config call (number + 1) lastError))
  | stage, .cancelled =>
    if stage.finished then none else some (world.move index call (.raised .cancelled))
  | _, _ => none

/-- `invalidate` and `close_all`. -/
def drop (world : SessionWorld) (action : SessionAction) : SessionWorld :=
  { world with
    sessions := fun key => if action.drops key then none else world.sessions key }

/-- One step. -/
def step (config : SessionConfig) (world : SessionWorld) : SessionAction → Option SessionWorld
  | .ensure deviceId kind deadline =>
    some { world with calls := world.calls ++ [⟨deviceId, kind, deadline, .locking⟩] }
  | .resume index answer =>
    match world.calls[index]? with
    | none => none
    | some call => world.resume config index call answer
  | .invalidate deviceId kind => some (world.drop (.invalidate deviceId kind))
  | .closeAll => some (world.drop .closeAll)
  | .tick elapsedS => if 0 ≤ elapsedS then some { world with now := world.now + elapsedS } else none

end SessionWorld

end DeviceOrchestrator
