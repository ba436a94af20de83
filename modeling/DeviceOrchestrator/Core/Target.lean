import DeviceOrchestrator.Core.Numeral
import DeviceOrchestrator.Core.Task

/-!
# What a target is built from

A target interprets the steps of a specification, which are whatever JSON the client sent. This
module has what the three targets share: the exceptions that can leave `execute` and what the
scheduler makes of each, reading a field of a step, `str` of a value, and the credential store.
-/
namespace DeviceOrchestrator

/-- What the version of the interpreter decides, and texts that nothing depends on. -/
structure Python where
  /-- `str` of a float. -/
  showFloat : Float → String
  /-- `repr` of a string. -/
  showText : String → String
  /-- `repr` of a built-in exception. -/
  reprError : PyError → String
  /-- `str` of a built-in exception. -/
  showError : PyError → String
  /-- `str.upper`. -/
  upper : String → String
  /-- Whether `asyncio.sleep` refuses NaN, as it does from 3.13 on. -/
  sleepRefusesNan : Bool
  deriving Inhabited

namespace Json

mutual

/-- `repr(value)`. -/
def repr (python : Python) : Json → String
  | null => "None"
  | bool true => "True"
  | bool false => "False"
  | int value => toString value
  | float value => python.showFloat value
  | str text => python.showText text
  | arr items => "[" ++ reprItems python items ++ "]"
  | obj fields => "\x7b" ++ reprFields python fields ++ "\x7d"

/-- The items of a list. -/
def reprItems (python : Python) : List Json → String
  | [] => ""
  | [item] => repr python item
  | item :: rest => repr python item ++ ", " ++ reprItems python rest

/-- The items of a dict. -/
def reprFields (python : Python) : List (String × Json) → String
  | [] => ""
  | [(key, value)] => python.showText key ++ ": " ++ repr python value
  | (key, value) :: rest =>
    python.showText key ++ ": " ++ repr python value ++ ", " ++ reprFields python rest

end

/-- `value is None`. -/
def isNull : Json → Bool
  | null => true
  | _ => false

/-- `str(value)`. -/
def text (python : Python) : Json → String
  | str text => text
  | value => value.repr python

end Json

/-- The items of a dict. -/
abbrev Fields := List (String × Json)

namespace Fields

/-- `fields.get(key)`. -/
def get (fields : Fields) (key : String) : Json := (fields.lookup key).getD .null

/-- `fields.get(key, default)`. -/
def getD (fields : Fields) (key : String) (default : Json) : Json :=
  (fields.lookup key).getD default

/-- `key in fields`. -/
def has (fields : Fields) (key : String) : Bool := (fields.lookup key).isSome

/-- `fields[key] = value`. -/
def set : Fields → String → Json → Fields
  | [], key, value => [(key, value)]
  | (other, old) :: rest, key, value =>
    if other = key then (key, value) :: rest else (other, old) :: set rest key value

/-- `fields.update(more)`. -/
def update (fields more : Fields) : Fields :=
  more.foldl (fun fields entry => fields.set entry.1 entry.2) fields

end Fields

/-- An exception that leaves a call. -/
inductive Raised
  /-- `FatalError`. -/
  | fatal (message : String)
  /-- `RetryableError`. -/
  | retryable (message : String) (blamesDevice : Bool)
  /-- `SessionError`. -/
  | session (message : String)
  /-- `AuthError`. -/
  | auth (message : String)
  /-- `AdbNotAvailable`. -/
  | adbNotAvailable (message : String)
  /-- `TimeoutError`. -/
  | timeout
  /-- `KeyError` of a missing key. -/
  | missing (key : String)
  /-- Another built-in exception. -/
  | builtin (error : PyError)
  deriving DecidableEq

namespace Raised

/-- `repr` of an exception that no class of the scheduler names. -/
def repr (python : Python) : Raised → String
  | auth message =>
    let shown := python.showText message
    s!"AuthError({shown})"
  | adbNotAvailable message =>
    let shown := python.showText message
    s!"AdbNotAvailable({shown})"
  | missing key =>
    let shown := python.showText key
    s!"KeyError({shown})"
  | builtin error => python.reprError error
  | fatal message | retryable message _ | session message => message
  | timeout => "TimeoutError()"

/-- `str` of an exception. -/
def text (python : Python) : Raised → String
  | fatal message | retryable message _ | session message | auth message
  | adbNotAvailable message => message
  | timeout => ""
  | missing key => python.showText key
  | builtin error => python.showError error

/-- The `except` clause of `_run_once` that catches an exception. -/
def outcome (python : Python) : Raised → Outcome
  | fatal message => .fatal message
  | retryable message blamesDevice => .retryable message blamesDevice
  | session message => .session message
  | timeout => .timeout
  | other => .crash (other.repr python)

/-- Whether it counts as evidence against the device. -/
def blames : Raised → Bool
  | fatal _ => false
  | retryable _ blamesDevice => blamesDevice
  | _ => true

/-- The scheduler blames the device for exactly these. -/
@[simp]
theorem blamesDevice_outcome (python : Python) (raised : Raised) :
    (raised.outcome python).blamesDevice = raised.blames := by
  cases raised <;> rfl

end Raised

/-- A built-in exception that nobody catches. -/
def escaping {α : Type} : Except PyError α → Except Raised α
  | .ok value => .ok value
  | .error error => .error (.builtin error)

/-- The fields of a step; only a dict has `get`. -/
def fieldsOf : Json → Except Raised Fields
  | .obj fields => .ok fields
  | _ => .error (.builtin .attributeError)

/-- How `execute` ends. -/
def ended (python : Python) : Except Raised Json → Outcome
  | .ok value => .result value
  | .error raised => raised.outcome python

/-- `Credential`, without the realm and the extras that no target reads. -/
structure Credential where
  /-- The reference it was resolved from. -/
  ref : String
  /-- basic, bearer or cookie. -/
  kind : String
  /-- The user. -/
  username : Option String := none
  /-- The secret, revealed. -/
  secret : Option String := none

/-- `CredentialStore`. -/
structure CredentialStore where
  /-- `os.environ.get`, which refuses a name that it cannot encode. -/
  environ : String → Except PyError (Option String)
  /-- `_file_creds`. -/
  fileCreds : String → Option Credential

/-- `text.partition(":")`, without the separator. -/
def partitionColon (text : String) : String × String :=
  let chars := text.toList
  (String.ofList (chars.takeWhile (· ≠ ':')), String.ofList ((chars.dropWhile (· ≠ ':')).drop 1))

/-- The name of the environment variable of a reference. -/
def envKey (python : Python) (ref : String) : String :=
  "ORCH_CRED_" ++ String.ofList ((python.upper ref).toList.map fun char =>
    if char = '-' then '_' else char)

/-- `CredentialStore.resolve`: the environment first, then the file. -/
def CredentialStore.resolve (python : Python) (store : CredentialStore) (ref : String) :
    Except Raised Credential := do
  let raw ← escaping (store.environ (envKey python ref))
  match raw.filter (· ≠ "") with
  | some raw =>
    let (username, password) := partitionColon raw
    if password ≠ "" then
      .ok { ref := ref, kind := "basic", username := some username, secret := some password }
    else .ok { ref := ref, kind := "bearer", secret := some username }
  | none =>
    match store.fileCreds ref with
    | some credential => .ok credential
    | none =>
      let shown := python.showText ref
      let key := envKey python ref
      .error (.auth s!"no credential {shown} (looked for ${key}, then the store)")

/-- A session of `SessionManager.ensure`. -/
structure SessionHandle where
  /-- Its identifier. -/
  id : String
  /-- How often the session was rebuilt. -/
  generation : Nat
  deriving DecidableEq

end DeviceOrchestrator
