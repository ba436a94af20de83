import DeviceOrchestrator.Core.Target
import DeviceOrchestrator.Lib.Base64

/-!
# Credentials, tokens and cookies

`Core.Target` resolves a reference to texts. Here a secret is whatever `str` holds: a list of code
points, in which a lone surrogate can stand, as it does in an environment variable that is not
UTF-8. `str.encode` refuses it, so `Credential.header` can raise what no class of this program
names. An entry of the token cache and the cookies of a realm are judged by a clock.
-/
namespace DeviceOrchestrator

/-- A code point of the interpreter. -/
abbrev CodePoint := Fin 0x110000

/-- A `str`. -/
abbrev PyText := List CodePoint

namespace CodePoint

/-- The code point of a number. -/
def ofNat (number : Nat) : CodePoint := Fin.ofNat 0x110000 number

/-- The code point of a character. -/
def ofChar (char : Char) : CodePoint := ofNat char.toNat

/-- Whether UTF-8 has no bytes for it. -/
def surrogate (point : CodePoint) : Bool := 0xD800 ≤ point.val && point.val ≤ 0xDFFF

/-- The bytes of a code point that is no surrogate. -/
def utf8 (point : CodePoint) : List UInt8 := String.utf8EncodeChar (Char.ofNat point.val)

end CodePoint

/-- A text of the source. -/
def PyText.ofString (text : String) : PyText := text.toList.map CodePoint.ofChar

/-- Whether a text has no lone surrogate. -/
def PyText.unicode (text : PyText) : Bool := text.all fun point => !point.surrogate

/-- The string that such a text is. -/
def PyText.string? (text : PyText) : Option String :=
  if text.unicode then some (String.ofList (text.map fun point => Char.ofNat point.val)) else none

/-- `UnicodeEncodeError` of UTF-8: the first run of surrogates. -/
structure EncodeError where
  /-- The first of them. -/
  point : CodePoint
  /-- Where the run starts. -/
  start : Nat
  /-- The position after the run. -/
  stop : Nat
  deriving DecidableEq

/-- `str` of the exception. -/
def EncodeError.text (error : EncodeError) : String :=
  let start := error.start
  if error.stop = error.start + 1 then
    let shown := "\\u" ++ String.ofList (Nat.toDigits 16 error.point.val)
    s!"'utf-8' codec can't encode character '{shown}' in position {start}: surrogates not allowed"
  else
    let last := error.stop - 1
    s!"'utf-8' codec can't encode characters in position {start}-{last}: surrogates not allowed"

/-- `text.encode()`. -/
def PyText.encode (text : PyText) : Except EncodeError (List UInt8) :=
  match text.dropWhile fun point => !point.surrogate with
  | [] => .ok (text.flatMap CodePoint.utf8)
  | point :: rest =>
    let start := (text.takeWhile fun point => !point.surrogate).length
    .error ⟨point, start, start + 1 + (rest.takeWhile CodePoint.surrogate).length⟩

/-- An exception that leaves a call. -/
inductive StepError
  /-- One that the targets know. -/
  | known (raised : Raised)
  /-- `UnicodeEncodeError`, with its `str`. -/
  | encode (reason : String)
  deriving DecidableEq

namespace Auth

/-- `Credential`, without the realm and the extras that no target reads. -/
structure Credential where
  /-- The reference it was resolved from. -/
  ref : String
  /-- basic, bearer or cookie. -/
  kind : String
  /-- The user. -/
  username : Option PyText := none
  /-- The secret, revealed. -/
  secret : Option PyText := none
  deriving DecidableEq

/-- The bytes that `header` encodes of a user and a secret. -/
def Credential.pair (username secret : PyText) : PyText :=
  username ++ PyText.ofString ":" ++ secret

/-- `base64.b64encode`, as a text: the standard alphabet. -/
def b64encode (bytes : List UInt8) : PyText :=
  (Base64.encode bytes).map fun char =>
    CodePoint.ofChar (if char = '-' then '+' else if char = '_' then '/' else char)

/-- `Credential.header`. -/
def Credential.header (credential : Credential) : Except StepError (String × PyText) :=
  let ref := credential.ref
  let kind := credential.kind
  if kind = "basic" then
    match credential.username, credential.secret with
    | some username, some secret =>
      match (pair username secret).encode with
      | .error error => .error (.encode error.text)
      | .ok raw => .ok ("Authorization", PyText.ofString "Basic " ++ b64encode raw)
    | _, _ => .error (.known (.auth s!"credential {ref} is basic but incomplete"))
  else if kind = "bearer" then
    match credential.secret with
    | some secret => .ok ("Authorization", PyText.ofString "Bearer " ++ secret)
    | none => .error (.known (.auth s!"credential {ref} is bearer but has no token"))
  else .error (.known (.auth s!"credential {ref} of kind {kind} has no header form"))

/-- `CredentialStore`. -/
structure CredentialStore where
  /-- `os.environ.get`, which refuses a name that it cannot encode. -/
  environ : String → Except PyError (Option PyText)
  /-- `_file_creds`. -/
  fileCreds : String → Option Credential

/-- `text.partition(":")`, without the separator. -/
def partitionColon (text : PyText) : PyText × PyText :=
  let colon := CodePoint.ofChar ':'
  (text.takeWhile (· ≠ colon), (text.dropWhile (· ≠ colon)).drop 1)

/-- `CredentialStore.resolve`: the environment first, then the file. -/
def CredentialStore.resolve (python : Python) (store : CredentialStore) (ref : String) :
    Except Raised Credential := do
  let raw ← escaping (store.environ (envKey python ref))
  match raw.filter (· ≠ []) with
  | some raw =>
    let (username, password) := partitionColon raw
    if password ≠ [] then
      .ok { ref := ref, kind := "basic", username := some username, secret := some password }
    else .ok { ref := ref, kind := "bearer", secret := some username }
  | none =>
    match store.fileCreds ref with
    | some credential => .ok credential
    | none =>
      let shown := python.showText ref
      let key := envKey python ref
      .error (.auth s!"no credential {shown} (looked for ${key}, then the store)")

/-- `CachedToken`. -/
structure CachedToken where
  /-- The token, revealed. -/
  token : PyText
  /-- When it expires, where it says so. -/
  expiresAt : Option Float

/-- `CachedToken.stale`, for an entry that says when it expires. -/
def stale (expiresAt skewS now : Float) : Bool := (expiresAt - skewS).le now

/-- `round(value)`: to the nearest integer, and to the even one of two. -/
def pyRound (value : Float) : Except PyError Int :=
  let down := value.floor
  let above := value - down
  if above.lt 0.5 then intOfFloat down
  else if (0.5 : Float).lt above then intOfFloat (down + 1)
  else if (down / 2).floor * 2 == down then intOfFloat down
  else intOfFloat (down + 1)

/-- One cookie of `CookieJar.live`. -/
def liveCookie (now : Float) (cookie : Fields) : Except PyError Bool :=
  match cookie.get "expires" with
  | .null | .int (-1) => .ok true
  | .float value => .ok (value == -1 || now.lt value)
  | expires => do
    let value ← expires.toFloat
    .ok (now.lt value)

/-- `CookieJar.live`, for the cookies of a realm. -/
def liveCookies (now : Float) : List Fields → Except PyError Bool
  | [] => .ok false
  | cookie :: rest => do
    if ← liveCookie now cookie then .ok true else liveCookies now rest

end Auth

end DeviceOrchestrator
