import Mathlib.Algebra.Order.Ring.Rat
import Mathlib.Logic.Function.Basic
import DeviceOrchestrator.Core.Target
import DeviceOrchestrator.Lib.Mutex
import DeviceOrchestrator.Lib.Run

/-!
# The token cache as a step function

`TokenCache.get` looks at the entry of its realm without a lock, then again inside the lock of the
realm, and refreshes it there. Each call is a `TokenCall`, suspended at the lock or in `refresh`.
`invalidate` takes no lock and does not suspend. How `jwt_expiry` ends for a token is a parameter,
which `Core.Foreign` has in full: it can raise, and then nothing is stored. An entry carries the
number of the refresh that made it.
-/
namespace DeviceOrchestrator

/-- A float of the interpreter. -/
inductive PyFloat
  /-- A finite value. -/
  | finite (value : Rat)
  /-- An infinity. -/
  | infinity (negative : Bool)
  /-- NaN. -/
  | nan
  deriving DecidableEq

/-- `TokenCache.__init__`, and how `jwt_expiry` ends for a token. -/
structure TokenConfig where
  /-- How long before its expiry an entry counts as stale. -/
  skewS : Rat := 60
  /-- `jwt_expiry`. -/
  jwtExpiry : String → Except Raised (Option PyFloat)

/-- The `try` of `get` around `jwt_expiry`: an opaque token shows no expiry. -/
def TokenConfig.expiry (config : TokenConfig) (raw : String) : Except Raised (Option PyFloat) :=
  match config.jwtExpiry raw with
  | .error (.auth _) => .ok none
  | answer => answer

/-- `CachedToken`. -/
structure CachedToken where
  /-- The token. -/
  token : String
  /-- When it expires, where it says so. -/
  expiresAt : Option PyFloat
  /-- The number of the refresh that made the entry. -/
  number : Nat
  deriving DecidableEq

/-- `CachedToken.stale`. -/
def CachedToken.stale (cached : CachedToken) (skewS now : Rat) : Bool :=
  match cached.expiresAt with
  | none | some .nan => false
  | some (.infinity negative) => negative
  | some (.finite expiresAt) => expiresAt - skewS ≤ now

/-- The `ttl_s` of the log line of `get`: `round` refuses an infinity and NaN. -/
def CachedToken.logTtl (cached : CachedToken) : Except PyError Unit :=
  match cached.expiresAt with
  | none | some (.finite _) => .ok ()
  | some (.infinity _) => .error .overflowError
  | some .nan => .error .valueError

/-- How a call of `get` raises. -/
inductive TokenError
  /-- The exception that left `refresh`, also a cancellation. -/
  | refresh (error : String)
  /-- An exception that left `get` itself. -/
  | own (raised : Raised)
  deriving DecidableEq

/-- Where a call of `get` is suspended, and how it ends. -/
inductive TokenStage
  /-- It awaits the lock of its realm. -/
  | locking
  /-- It awaits `refresh`. -/
  | refreshing
  /-- It returned the token of an entry. -/
  | returned (cached : CachedToken)
  /-- It raised. -/
  | raised (error : TokenError)
  /-- It was cancelled while it awaited the lock. -/
  | cancelled
  deriving DecidableEq

/-- A call of `get`. -/
structure TokenCall where
  /-- The realm. -/
  realm : String
  /-- Where it is suspended. -/
  stage : TokenStage
  deriving DecidableEq

/-- A call awaits `refresh`, inside the lock of its realm. -/
def TokenCall.refreshing (call : TokenCall) : Bool := call.stage = .refreshing

/-- `TokenCache`, and the calls of `get` made on it. -/
structure TokenWorld where
  /-- `time.time()`. -/
  now : Rat := 0
  /-- `_tokens`. -/
  tokens : String → Option CachedToken := fun _ => none
  /-- Every call of `get` so far. -/
  calls : List TokenCall := []
  /-- Entries made so far. -/
  made : Nat := 0

/-- What an await of `get` answers. -/
inductive TokenAnswer
  /-- The lock of the realm is given. -/
  | locked
  /-- `refresh` returns a token. -/
  | refreshed (raw : String)
  /-- `refresh` raises. -/
  | refreshRaised (error : String)
  /-- The call is cancelled while it awaits the lock. -/
  | cancelled
  deriving DecidableEq

/-- Who calls the cache, and which call resumes. -/
inductive TokenAction
  /-- `get` is called. -/
  | get (realm : String)
  /-- A call resumes with what its await answered. -/
  | resume (call : Nat) (answer : TokenAnswer)
  /-- `invalidate`. -/
  | invalidate (realm : String)
  /-- Time passes. -/
  | tick (elapsedS : Rat)
  deriving DecidableEq

namespace TokenWorld

/-- The entry of a realm, unless it is stale. -/
def fresh? (config : TokenConfig) (world : TokenWorld) (realm : String) : Option CachedToken :=
  (world.tokens realm).filter fun cached => !cached.stale config.skewS world.now

/-- Nobody refreshes a realm. -/
def free (world : TokenWorld) (realm : String) : Bool :=
  Mutex.free TokenCall.realm TokenCall.refreshing world.calls realm

/-- A call goes on to its next await. -/
def move (world : TokenWorld) (index : Nat) (call : TokenCall) (stage : TokenStage) :
    TokenWorld :=
  { world with calls := world.calls.set index { call with stage := stage } }

/-- The entry made for a token, where `jwt_expiry` raises nothing else than `AuthError`. -/
def entryOf (config : TokenConfig) (world : TokenWorld) (raw : String) : Option CachedToken :=
  match config.expiry raw with
  | .ok expiresAt => some ⟨raw, expiresAt, world.made⟩
  | .error _ => none

/-- The entry is stored, the refresh is logged and the token is returned. -/
def keep (world : TokenWorld) (index : Nat) (call : TokenCall) (cached : CachedToken) :
    TokenWorld :=
  let stage := match cached.logTtl with
    | .ok () => .returned cached
    | .error error => .raised (.own (.builtin error))
  { world.move index call stage with
    tokens := Function.update world.tokens call.realm (some cached)
    made := world.made + 1 }

/-- `refresh` returned; nothing is stored if `jwt_expiry` raises. -/
def store (config : TokenConfig) (world : TokenWorld) (index : Nat) (call : TokenCall)
    (raw : String) : TokenWorld :=
  match config.expiry raw with
  | .ok expiresAt => world.keep index call ⟨raw, expiresAt, world.made⟩
  | .error raised => world.move index call (.raised (.own raised))

/-- What a call does when its await answers, up to the next await. -/
def resume (config : TokenConfig) (world : TokenWorld) (index : Nat) (call : TokenCall)
    (answer : TokenAnswer) : Option TokenWorld :=
  match call.stage, answer with
  | .locking, .locked =>
    if world.free call.realm then
      match world.fresh? config call.realm with
      | some cached => some (world.move index call (.returned cached))
      | none => some (world.move index call .refreshing)
    else none
  | .locking, .cancelled => some (world.move index call .cancelled)
  | .refreshing, .refreshed raw => some (world.store config index call raw)
  | .refreshing, .refreshRaised error =>
    some (world.move index call (.raised (.refresh error)))
  | _, _ => none

/-- One step. -/
def step (config : TokenConfig) (world : TokenWorld) : TokenAction → Option TokenWorld
  | .get realm =>
    match world.fresh? config realm with
    | some cached => some { world with calls := world.calls ++ [⟨realm, .returned cached⟩] }
    | none => some { world with calls := world.calls ++ [⟨realm, .locking⟩] }
  | .resume index answer =>
    match world.calls[index]? with
    | none => none
    | some call => world.resume config index call answer
  | .invalidate realm => some { world with tokens := Function.update world.tokens realm none }
  | .tick elapsedS => if 0 ≤ elapsedS then some { world with now := world.now + elapsedS } else none

end TokenWorld

end DeviceOrchestrator
