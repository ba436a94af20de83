import DeviceOrchestrator.Core.Auth
import DeviceOrchestrator.Core.Health
import DeviceOrchestrator.Core.SecretBox
import DeviceOrchestrator.Core.TokenCache
import DeviceOrchestrator.Lib.Binary64

/-!
# Texts from outside

A token that a server hands out and a blob of a sealed file are whatever `str` holds. Both are cut
into fields, and the fields are base64 only if whoever wrote them meant it so. `json.loads` is a
parameter: nothing here depends on what it accepts. The time that is left of a token is exact, as
no clock is so large that the difference of two floats overflows.
-/
namespace DeviceOrchestrator

/-- `text.encode("ascii")`. -/
def PyText.ascii (text : PyText) : Option (List Char) :=
  if text.all fun point => point.val < 128 then some (text.map fun point => Char.ofNat point.val)
  else none

/-- `base64.urlsafe_b64decode`: a text that is not ASCII raises `ValueError`, like the others. -/
def PyText.urlsafeB64decode (text : PyText) : Except Raised Bytes :=
  match text.ascii with
  | none => .error (.builtin .valueError)
  | some chars => DeviceOrchestrator.urlsafeB64decode chars

/-! ## JSON web tokens -/

/-- The padding of `jwt_claims`. -/
def jwtPadded (payload : PyText) : PyText :=
  payload ++ List.replicate (-(payload.length : Int) % 4).toNat (CodePoint.ofChar '=')

section
variable (loads : Bytes → Except PyError Json)

/-- `jwt_claims`. -/
def jwtClaims (token : PyText) : Except Raised Json :=
  match token.splitOn (CodePoint.ofChar '.') with
  | [_, payload, _] =>
    match (jwtPadded payload).urlsafeB64decode with
    | .error _ => .error (.auth "JWT payload is not JSON")
    | .ok bytes => (loads bytes).mapError fun _ => .auth "JWT payload is not JSON"
  | _ => .error (.auth "not a JWT")

/-- `float(exp) if isinstance(exp, (int, float)) else None`. -/
def expOf : Json → Except PyError (Option Float)
  | .null | .str _ | .arr _ | .obj _ => .ok none
  | exp => some <$> exp.toFloat

/-- `jwt_expiry`. -/
def jwtExpiry (token : PyText) : Except Raised (Option Float) := do
  let claims ← fieldsOf (← jwtClaims loads token)
  escaping (expOf (claims.get "exp"))

/-- `round(expires_at - time.time())`. -/
def roundUntil (expiresAt : Float) (now : Rat) : Except PyError Int :=
  if expiresAt.isNaN then .error .valueError
  else match Binary64.number? expiresAt with
    | none => .error .overflowError
    | some value => .ok (roundHalfEven (value - now))

/-- The `ttl_s` of the log line. -/
def ttlS (expiresAt : Option Float) (now : Rat) : Except PyError (Option Int) :=
  match expiresAt with
  | none => .ok none
  | some expiresAt =>
    if expiresAt == Float.ofBits 0 then .ok none else some <$> roundUntil expiresAt now

/-- What the cache takes for the expiry of a token: an opaque one shows none. -/
def shownExpiry (token : PyText) : Except Raised (Option Float) :=
  match jwtExpiry loads token with
  | .error (.auth _) => .ok none
  | answer => answer

/-- The rest of `TokenCache.get` once `refresh` returned, and the entries it leaves. -/
def getRefreshed (realm : String) (now : Rat) (raw : PyText)
    (tokens : String → Option Auth.CachedToken) :
    Except Raised PyText × (String → Option Auth.CachedToken) :=
  match shownExpiry loads raw with
  | .error raised => (.error raised, tokens)
  | .ok expiresAt =>
    -- The entry is there before the line of the log is made.
    let tokens := Function.update tokens realm (some ⟨raw, expiresAt⟩)
    match ttlS expiresAt now with
    | .error error => (.error (.builtin error), tokens)
    | .ok _ => (.ok raw, tokens)

end

/-- The number of a float, or what it is else. -/
def PyFloat.ofFloat (value : Float) : PyFloat :=
  match Binary64.number? value with
  | some number => .finite number
  | none => if value.isNaN then .nan else .infinity (value.lt (Float.ofBits 0))

/-- The cache of `Core.TokenCache` with this `jwt_expiry`. -/
def TokenConfig.reading (loads : Bytes → Except PyError Json) (skewS : Rat) : TokenConfig where
  skewS := skewS
  jwtExpiry raw := (DeviceOrchestrator.jwtExpiry loads (PyText.ofString raw)).map fun expiresAt =>
    expiresAt.map PyFloat.ofFloat

/-! ## Sealed blobs -/

/-- `SecretBox.__init__`. -/
def SecretBox.newText (passphrase : PyText) : Except StepError SecretBox :=
  match passphrase.encode with
  | .error error => .error (.encode error.text)
  | .ok bytes =>
    -- Only the empty text has no bytes.
    if empty : bytes = [] then .error (.known (.auth "SecretBox needs a passphrase"))
    else .ok ⟨bytes, empty⟩

/-- `seal`. -/
def SecretBox.sealText (primitives : Primitives) (box : SecretBox) (salt nonce : Bytes)
    (plaintext : PyText) : Except EncodeError String := do
  let data ← plaintext.encode
  .ok (box.sealBytes primitives salt nonce data).join

/-- What a blob is opened with besides the digests. -/
structure Opener where
  /-- `repr` of a string. -/
  repr : PyText → String
  /-- `AESGCM(key).decrypt(nonce, ciphertext, None).decode()` where `cryptography` is installed;
  `none` if anything of it raises. -/
  aesgcm : Option (Bytes → Bytes → Bytes → Option String)

/-- `_split`, with its version as it stands in the text. -/
def PyText.splitBlob (blob : PyText) : Except Raised (PyText × Bytes × Bytes × Bytes × Bytes) :=
  match blob.splitOn (CodePoint.ofChar '$') with
  | [version, salt, nonce, ciphertext, tag] => do
    let salt ← PyText.urlsafeB64decode salt
    let nonce ← PyText.urlsafeB64decode nonce
    let ciphertext ← PyText.urlsafeB64decode ciphertext
    let tag ← PyText.urlsafeB64decode tag
    .ok (version, salt, nonce, ciphertext, tag)
  | _ => .error (.auth "malformed secret blob")

/-- The bytes that a v1 blob holds. -/
def SecretBox.plain (primitives : Primitives) (box : SecretBox) (salt nonce ciphertext : Bytes) :
    Bytes :=
  xorBytes ciphertext
    (keystream primitives ((box.derive primitives salt).take 32) nonce ciphertext.length)

/-- The tag that a v1 blob should have. -/
def SecretBox.expected (primitives : Primitives) (box : SecretBox)
    (salt nonce ciphertext : Bytes) : Bytes :=
  primitives.hmacSha256 ((box.derive primitives salt).drop 32) (nonce ++ ciphertext)

/-- `open` of any blob. -/
def SecretBox.openText (opener : Opener) (primitives : Primitives) (box : SecretBox)
    (blob : PyText) : Except Raised String := do
  let (version, salt, nonce, ciphertext, tag) ← blob.splitBlob
  if version = PyText.ofString "v2" then
    match opener.aesgcm with
    | none => .error (.auth "blob is AES-GCM but cryptography is not installed")
    | some decrypt =>
      match decrypt ((box.derive primitives salt).take 32) nonce ciphertext with
      | none => .error (.auth "credential blob failed authentication")
      | some text => .ok text
  else if version ≠ PyText.ofString "v1" then
    let shown := opener.repr version
    .error (.auth s!"unknown secret format {shown}")
  else if box.expected primitives salt nonce ciphertext ≠ tag then
    .error (.auth "credential blob failed authentication")
  else decodeUtf8 (box.plain primitives salt nonce ciphertext)

end DeviceOrchestrator
