import DeviceOrchestrator.Core.Target
import DeviceOrchestrator.Lib.Base64

/-!
# Sealed credentials

`SecretBox` on the standard-library path, where `cryptography` is not installed. A blob is a
version and four base64 fields joined by `$`. scrypt and HMAC-SHA256 are parameters, and so are
the salt and the nonce that `seal` draws. The texts here are sequences of Unicode scalar values, so
`str.encode` does not fail; `Core.Foreign` has the texts that it refuses.
-/
namespace DeviceOrchestrator

/-- A `bytes` object. -/
abbrev Bytes := List UInt8

/-- `str.encode`, of a text without surrogates. -/
def encodeUtf8 (text : String) : Bytes := text.toUTF8.data.toList

/-- `bytes.decode`; `UnicodeDecodeError` is a `ValueError`. -/
def decodeUtf8 (bytes : Bytes) : Except Raised String :=
  match String.fromUTF8? ⟨bytes.toArray⟩ with
  | some text => .ok text
  | none => .error (.builtin .valueError)

/-- `base64.urlsafe_b64decode`; `binascii.Error` is a `ValueError`. -/
def urlsafeB64decode (text : List Char) : Except Raised Bytes :=
  (Base64.decode text).mapError fun _ => .builtin .valueError

/-- The functions of `hashlib` and `hmac` that are used. -/
structure Primitives where
  /-- `hashlib.scrypt` with the cost parameters of the module, of a passphrase and a salt. -/
  scrypt : Bytes → Bytes → Bytes
  /-- `hmac.new(key, message, hashlib.sha256).digest()`. -/
  hmacSha256 : Bytes → Bytes → Bytes
  /-- A digest is not empty. -/
  digest_pos : ∀ key message, 0 < (hmacSha256 key message).length

/-- `SecretBox`. -/
structure SecretBox where
  /-- The passphrase, encoded. -/
  passphrase : Bytes
  /-- There is one. -/
  nonempty : passphrase ≠ []

/-- `SecretBox.__init__`. -/
def SecretBox.new (passphrase : String) : Except Raised SecretBox :=
  if empty : encodeUtf8 passphrase = [] then .error (.auth "SecretBox needs a passphrase")
  else .ok ⟨encodeUtf8 passphrase, empty⟩

/-- What `_split` returns. -/
structure Blob where
  /-- The format. -/
  version : String
  /-- The salt of the key. -/
  salt : Bytes
  /-- The nonce of the keystream. -/
  nonce : Bytes
  /-- The ciphertext. -/
  ciphertext : Bytes
  /-- The tag. -/
  tag : Bytes
  deriving DecidableEq

/-- `_join`. -/
def Blob.join (blob : Blob) : String :=
  String.intercalate "$" (blob.version ::
    [blob.salt, blob.nonce, blob.ciphertext, blob.tag].map fun part =>
      String.ofList (Base64.encode part))

/-- `_split`. -/
def Blob.split (blob : String) : Except Raised Blob :=
  match blob.toList.splitOn '$' with
  | [version, salt, nonce, ciphertext, tag] => do
    let salt ← urlsafeB64decode salt
    let nonce ← urlsafeB64decode nonce
    let ciphertext ← urlsafeB64decode ciphertext
    let tag ← urlsafeB64decode tag
    .ok ⟨String.ofList version, salt, nonce, ciphertext, tag⟩
  | _ => .error (.auth "malformed secret blob")

/-- `counter.to_bytes(8, "big")`; no `bytes` object is long enough for a counter that overflows. -/
def toBytes8 (counter : Nat) : Bytes :=
  (List.range 8).map fun place => UInt8.ofNat (counter / 256 ^ (7 - place))

/-- The loop of `_keystream`: each digest adds a byte at least, so `length` rounds are enough. -/
def keystreamLoop (primitives : Primitives) (key nonce : Bytes) (length : Nat) :
    Nat → Nat → Bytes → Bytes
  | 0, _, out => out
  | rounds + 1, counter, out =>
    if out.length < length then
      keystreamLoop primitives key nonce length rounds (counter + 1)
        (out ++ primitives.hmacSha256 key (nonce ++ toBytes8 counter))
    else out

/-- `_keystream`. -/
def keystream (primitives : Primitives) (key nonce : Bytes) (length : Nat) : Bytes :=
  (keystreamLoop primitives key nonce length length 0 []).take length

/-- `_xor`. -/
def xorBytes (data pad : Bytes) : Bytes := List.zipWith (· ^^^ ·) data pad

namespace SecretBox

/-- `_derive`. -/
def derive (primitives : Primitives) (box : SecretBox) (salt : Bytes) : Bytes :=
  primitives.scrypt box.passphrase salt

/-- The blob that `seal` makes of an encoded text with the salt and the nonce it drew. -/
def sealBytes (primitives : Primitives) (box : SecretBox) (salt nonce data : Bytes) : Blob :=
  let key := box.derive primitives salt
  let encKey := key.take 32
  let macKey := key.drop 32
  let ciphertext := xorBytes data (keystream primitives encKey nonce data.length)
  { version := "v1"
    salt := salt
    nonce := nonce
    ciphertext := ciphertext
    tag := primitives.hmacSha256 macKey (nonce ++ ciphertext) }

/-- The blob of a plaintext. -/
def sealed (primitives : Primitives) (box : SecretBox) (salt nonce : Bytes) (plaintext : String) :
    Blob :=
  box.sealBytes primitives salt nonce (encodeUtf8 plaintext)

/-- `seal`. -/
def sealBlob (primitives : Primitives) (box : SecretBox) (salt nonce : Bytes) (plaintext : String) :
    String :=
  (box.sealed primitives salt nonce plaintext).join

/-- `open`. -/
def openBlob (python : Python) (primitives : Primitives) (box : SecretBox) (blob : String) :
    Except Raised String := do
  let blob ← Blob.split blob
  let key := box.derive primitives blob.salt
  if blob.version = "v2" then
    .error (.auth "blob is AES-GCM but cryptography is not installed")
  else if blob.version ≠ "v1" then
    let shown := python.showText blob.version
    .error (.auth s!"unknown secret format {shown}")
  else
    let encKey := key.take 32
    let macKey := key.drop 32
    let expected := primitives.hmacSha256 macKey (blob.nonce ++ blob.ciphertext)
    if expected ≠ blob.tag then .error (.auth "credential blob failed authentication")
    else
      decodeUtf8
        (xorBytes blob.ciphertext (keystream primitives encKey blob.nonce blob.ciphertext.length))

end SecretBox

end DeviceOrchestrator
