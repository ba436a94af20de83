import DeviceOrchestrator.Core.Foreign
import DeviceOrchestrator.Verif.Captured
import DeviceOrchestrator.Verif.SingleFlight
import DeviceOrchestrator.Verif.Texts

/-!
# Which texts from outside are taken

`jwt_claims` turns everything that can go wrong with a payload into `AuthError`, and
`TokenCache.get` takes that for an opaque token. What the payload says goes unchecked: JSON that is
no object has no `get`, and an `exp` that no finite float holds has no rounded rest. `open` turns a
wrong number of fields and a wrong tag into `AuthError`, but not what decoding a field or the
opened text raises.
-/
namespace DeviceOrchestrator

/-! ## The payload of a token -/

section
variable {loads : Bytes → Except PyError Json} {token : PyText} {claims : Json}

/-- The middle one of three fields is base64 of JSON. -/
def Payload (loads : Bytes → Except PyError Json) (token : PyText) (claims : Json) : Prop :=
  ∃ header payload signature bytes,
    token.splitOn (CodePoint.ofChar '.') = [header, payload, signature] ∧
      (jwtPadded payload).urlsafeB64decode = .ok bytes ∧ loads bytes = .ok claims

/-- What `jwt_claims` makes of a token of three fields. -/
theorem jwtClaims_of_fields {header payload signature : PyText}
    (fields : token.splitOn (CodePoint.ofChar '.') = [header, payload, signature]) :
    jwtClaims loads token = match (jwtPadded payload).urlsafeB64decode with
      | .error _ => .error (.auth "JWT payload is not JSON")
      | .ok bytes => (loads bytes).mapError fun _ => .auth "JWT payload is not JSON" := by
  cases decoded : (jwtPadded payload).urlsafeB64decode with
  | error raised => simp only [jwtClaims, fields, decoded]
  | ok bytes => simp only [jwtClaims, fields, decoded]

/-- **What `jwt_claims` returns is the payload, and what it raises is `AuthError`.** -/
theorem jwtClaims_cases :
    (∃ claims, jwtClaims loads token = .ok claims ∧ Payload loads token claims) ∨
      ∃ message, jwtClaims loads token = .error (.auth message) ∧
        ∀ claims, ¬ Payload loads token claims := by
  by_cases three : ∃ header payload signature,
      token.splitOn (CodePoint.ofChar '.') = [header, payload, signature]
  · obtain ⟨header, payload, signature, fields⟩ := three
    rw [jwtClaims_of_fields fields]
    cases decoded : (jwtPadded payload).urlsafeB64decode with
    | error raised =>
      refine .inr ⟨_, rfl, fun claims payload => ?_⟩
      obtain ⟨_, _, _, _, same, decoded', -⟩ := payload
      rw [fields] at same
      cases same
      rw [decoded] at decoded'
      cases decoded'
    | ok bytes =>
      dsimp only
      cases parsed : loads bytes with
      | ok claims =>
        exact .inl ⟨claims, rfl, header, payload, signature, bytes, fields, decoded, parsed⟩
      | error error =>
        refine .inr ⟨_, rfl, fun claims payload => ?_⟩
        obtain ⟨_, _, _, _, same, decoded', parsed'⟩ := payload
        rw [fields] at same
        cases same
        rw [decoded] at decoded'
        cases decoded'
        rw [parsed] at parsed'
        cases parsed'
  · have other : jwtClaims loads token = .error (.auth "not a JWT") := by
      unfold jwtClaims
      split
      · rename_i header payload signature fields
        exact absurd ⟨header, payload, signature, fields⟩ three
      · rfl
    refine .inr ⟨_, other, fun claims payload => ?_⟩
    obtain ⟨header, payload, signature, _, fields, -⟩ := payload
    exact three ⟨header, payload, signature, fields⟩

/-- A token has one payload. -/
theorem payload_unique {other : Json} (payload : Payload loads token claims)
    (payload' : Payload loads token other) : other = claims := by
  obtain ⟨_, _, _, _, fields, decoded, parsed⟩ := payload
  obtain ⟨_, _, _, _, fields', decoded', parsed'⟩ := payload'
  rw [fields] at fields'
  cases fields'
  rw [decoded] at decoded'
  cases decoded'
  rw [parsed] at parsed'
  exact (Except.ok.inj parsed').symm

end

/-! ## The expiry that a payload shows -/

/-- A number that a float holds, or no number at all. -/
def Json.finite : Json → Bool
  | int value => (Float.ofModel (Float.Model.ofInt value)).isFinite
  | float value => value.isFinite
  | _ => true

/-- Claims that are an object whose `exp` a float holds. -/
def Json.readable : Json → Bool
  | obj claims => (Fields.get claims "exp").finite
  | _ => false

/-- An answer of `jwt_expiry` that its callers are ready for: a finite expiry, none, or
`AuthError`. -/
def ExpiryUsable : Except Raised (Option Float) → Prop
  | .ok (some expiresAt) => expiresAt.isFinite = true
  | .ok none => True
  | .error raised => ∃ message, raised = .auth message

/-- `float(exp)` is finite exactly for an `exp` that a float holds. -/
theorem expOf_usable_iff (exp : Json) : ExpiryUsable (escaping (expOf exp)) ↔ exp.finite = true := by
  cases exp with
  | null => exact ⟨fun _ => rfl, fun _ => trivial⟩
  | str text => exact ⟨fun _ => rfl, fun _ => trivial⟩
  | arr items => exact ⟨fun _ => rfl, fun _ => trivial⟩
  | obj fields => exact ⟨fun _ => rfl, fun _ => trivial⟩
  | float value => exact Iff.rfl
  | bool value =>
    have finite : ∀ value : Bool, (if value then 1 else 0 : Float).isFinite = true := by
      decide +kernel
    exact ⟨fun _ => rfl, fun _ => finite value⟩
  | int value =>
    have converted : (Json.int value).toFloat =
        if (Float.ofModel (Float.Model.ofInt value)).isInf = true then .error .overflowError
        else .ok (Float.ofModel (Float.Model.ofInt value)) := rfl
    show ExpiryUsable (escaping (some <$> (Json.int value).toFloat)) ↔
      (Float.ofModel (Float.Model.ofInt value)).isFinite = true
    rw [converted]
    by_cases infinite : (Float.ofModel (Float.Model.ofInt value)).isInf = true
    · rw [if_pos infinite, Binary64.isFinite_of_isInf infinite]
      constructor
      · rintro ⟨message, raised⟩
        cases raised
      · intro impossible
        cases impossible
    · rw [if_neg infinite]
      exact Iff.rfl

/-- Claims show a usable expiry exactly if they are readable. -/
theorem claims_usable_iff (claims : Json) :
    ExpiryUsable ((fieldsOf claims).bind fun fields =>
      escaping (expOf (Fields.get fields "exp"))) ↔ claims.readable = true := by
  have refused : ¬ ExpiryUsable (.error (.builtin .attributeError)) := by
    rintro ⟨message, same⟩
    cases same
  cases claims with
  | obj fields => exact expOf_usable_iff (Fields.get fields "exp")
  | null | bool | int | float | str | arr =>
    exact ⟨fun usable => absurd usable refused, by simp [Json.readable]⟩

section
variable {loads : Bytes → Except PyError Json} {raw : PyText}

/-- **When `jwt_expiry` ends as it may**: whatever the payload is, it is readable. -/
theorem jwtExpiry_usable_iff : ExpiryUsable (jwtExpiry loads raw) ↔
    ∀ claims, Payload loads raw claims → claims.readable = true := by
  rcases @jwtClaims_cases loads raw with ⟨claims, returned, payload⟩ | ⟨message, raised, none⟩
  · have answer : jwtExpiry loads raw = (fieldsOf claims).bind fun fields =>
        escaping (expOf (Fields.get fields "exp")) := by
      rw [jwtExpiry, returned]
      rfl
    rw [answer, claims_usable_iff]
    constructor
    · intro readable other payload'
      rw [payload_unique payload payload']
      exact readable
    · intro all
      exact all claims payload
  · have answer : jwtExpiry loads raw = .error (.auth message) := by
      rw [jwtExpiry, raised]
      rfl
    rw [answer]
    exact ⟨fun _ claims payload => absurd payload (none claims), fun _ => ⟨message, rfl⟩⟩

/-! ## What the cache does with it -/

/-- A finite expiry has a rounded rest. -/
theorem ttlS_finite {expiresAt : Float} (finite : expiresAt.isFinite = true) (now : Rat) :
    ∃ ttl, ttlS (some expiresAt) now = .ok ttl := by
  have rounds : ∃ rest, roundUntil expiresAt now = .ok rest := by
    obtain ⟨value, exact⟩ := Binary64.number?_of_isFinite finite
    refine ⟨roundHalfEven (value - now), ?_⟩
    unfold roundUntil
    rw [Binary64.isNaN_of_isFinite finite, exact]
    rfl
  obtain ⟨rest, rounded⟩ := rounds
  have rest_eq : ttlS (some expiresAt) now = if (expiresAt == Float.ofBits 0) = true then .ok none
      else some <$> roundUntil expiresAt now := rfl
  rw [rest_eq, rounded]
  by_cases zero : (expiresAt == Float.ofBits 0) = true
  · exact ⟨none, if_pos zero⟩
  · exact ⟨some rest, if_neg zero⟩

/-- A token is usable: `jwt_expiry` ends as it may, and the cache stores and returns the token. -/
structure Usable (loads : Bytes → Except PyError Json) (raw : PyText) : Prop where
  /-- A finite expiry, none, or `AuthError`. -/
  expiry : ExpiryUsable (jwtExpiry loads raw)
  /-- Whatever the realm, the clock and the entries. -/
  stored : ∀ realm now tokens, ∃ expiresAt, getRefreshed loads realm now raw tokens =
    (.ok raw, Function.update tokens realm (some ⟨raw, expiresAt⟩))

/-- **An expiry that `jwt_expiry` may answer is all that the cache needs.** -/
theorem getRefreshed_stored (usable : ExpiryUsable (jwtExpiry loads raw)) (realm : String)
    (now : Rat) (tokens : String → Option Auth.CachedToken) :
    ∃ expiresAt, getRefreshed loads realm now raw tokens =
      (.ok raw, Function.update tokens realm (some ⟨raw, expiresAt⟩)) := by
  have shown : ∃ expiresAt, shownExpiry loads raw = .ok expiresAt ∧
      ∃ ttl, ttlS expiresAt now = .ok ttl := by
    unfold shownExpiry
    cases answer : jwtExpiry loads raw with
    | error raised =>
      rw [answer] at usable
      obtain ⟨message, rfl⟩ := usable
      exact ⟨none, rfl, none, rfl⟩
    | ok expiresAt =>
      rw [answer] at usable
      cases expiresAt with
      | none => exact ⟨none, rfl, none, rfl⟩
      | some expiresAt => exact ⟨some expiresAt, rfl, ttlS_finite usable now⟩
  obtain ⟨expiresAt, shown, ttl, rounded⟩ := shown
  refine ⟨expiresAt, ?_⟩
  unfold getRefreshed
  rw [shown]
  simp only [rounded]

/-- **A token is usable exactly if its payload, where it has one, is an object whose `exp` is no
number or one that a finite float holds.** -/
theorem usable_iff (loads : Bytes → Except PyError Json) (raw : PyText) :
    Usable loads raw ↔ ∀ claims, Payload loads raw claims → claims.readable = true := by
  rw [← jwtExpiry_usable_iff]
  constructor
  · intro usable
    exact usable.expiry
  · intro usable
    exact ⟨usable, getRefreshed_stored usable⟩

end

/-- `json.loads` on two payloads. -/
def loadsTwo (bytes : Bytes) : Except PyError Json :=
  if bytes = encodeUtf8 "[]" then .ok (.arr [])
  else if bytes = encodeUtf8 "\x7b\"exp\":1e999\x7d" then
    .ok (.obj [("exp", .float (Float.ofBits 0x7FF0000000000000))])
  else .error .valueError

/-- **A list in the middle of an opaque token loses it, and an infinite `exp` raises after the
entry was made.** -/
theorem usable_refuted :
    (¬ Usable loadsTwo (PyText.ofString "a.W10.c") ∧
      ∀ realm now tokens, getRefreshed loadsTwo realm now (PyText.ofString "a.W10.c") tokens =
        (.error (.builtin .attributeError), tokens)) ∧
    (¬ Usable loadsTwo (PyText.ofString "a.eyJleHAiOjFlOTk5fQ.c") ∧
      ∀ realm now tokens,
        (getRefreshed loadsTwo realm now (PyText.ofString "a.eyJleHAiOjFlOTk5fQ.c") tokens).1 =
          .error (.builtin .overflowError)) := by
  have listed : ∀ realm now tokens,
      getRefreshed loadsTwo realm now (PyText.ofString "a.W10.c") tokens =
        (.error (.builtin .attributeError), tokens) := fun _ _ _ => rfl
  have infinite : ∀ realm now tokens,
      (getRefreshed loadsTwo realm now (PyText.ofString "a.eyJleHAiOjFlOTk5fQ.c") tokens).1 =
        .error (.builtin .overflowError) := fun _ _ _ => rfl
  refine ⟨⟨fun usable => ?_, listed⟩, fun usable => ?_, infinite⟩
  · obtain ⟨expiresAt, stored⟩ := usable.stored "bank" 0 fun _ => none
    rw [listed] at stored
    cases congrArg Prod.fst stored
  · obtain ⟨expiresAt, stored⟩ := usable.stored "bank" 0 fun _ => none
    have answer := congrArg Prod.fst stored
    rw [infinite] at answer
    cases answer

/-! ## The expiry of a task's own model -/

/-- **The end of `get` in `Live` leaves the same entries**, where it is given this `jwt_expiry`. -/
theorem refreshToken_tokens {World : Type} {setting : TaskSetting World}
    {loads : Bytes → Except PyError Json} (reads : setting.jwtExpiry = jwtExpiry loads)
    (realm : String) (now : Rat) (raw : PyText) (scene : Scene World) :
    ((Live.refreshToken setting realm raw).start scene).2.tokens =
      (getRefreshed loads realm now raw scene.tokens).2 := by
  have same : Live.expiryOf setting raw = shownExpiry loads raw := by
    have answers : setting.jwtExpiry raw = jwtExpiry loads raw := congrFun reads raw
    cases answer : jwtExpiry loads raw with
    | ok expiresAt => simp only [Live.expiryOf, shownExpiry, answers, answer]
    | error raised => cases raised <;> simp only [Live.expiryOf, shownExpiry, answers, answer]
  unfold getRefreshed
  cases shown : shownExpiry loads raw with
  | error raised =>
    unfold Live.refreshToken
    rw [Procedure.start_bind, Live.start_expiry, same, shown]
    rfl
  | ok expiresAt =>
    rw [Live.refreshToken_stores (same.trans shown)]
    cases rounded : ttlS expiresAt now <;> simp only [rounded]

/-- A float that is finite has a number. -/
theorem PyFloat.isFinite_ofFloat (value : Float) :
    (PyFloat.ofFloat value).isFinite = value.isFinite := by
  rw [← Binary64.isSome_number?]
  unfold PyFloat.ofFloat
  cases Binary64.number? value with
  | some number => rfl
  | none => cases value.isNaN <;> rfl

/-- **The tokens that keep a group together are the usable ones**, with this `jwt_expiry`. -/
theorem TokenConfig.reading_usable (loads : Bytes → Except PyError Json) (skewS : Rat)
    (raw : String) : (TokenConfig.reading loads skewS).usable raw = true ↔
      ∀ claims, Payload loads (PyText.ofString raw) claims → claims.readable = true := by
  rw [← jwtExpiry_usable_iff]
  unfold TokenConfig.usable TokenConfig.expiry TokenConfig.reading
  dsimp only
  cases DeviceOrchestrator.jwtExpiry loads (PyText.ofString raw) with
  | ok expiresAt =>
    cases expiresAt with
    | none => simp [Except.map, ExpiryUsable]
    | some expiresAt => simp [Except.map, ExpiryUsable, PyFloat.isFinite_ofFloat]
  | error raised => cases raised <;> simp [Except.map, ExpiryUsable]

/-! ## The fields of a blob -/

/-- A text is base64. -/
def PyText.Base64 (text : PyText) : Prop := ∃ bytes, text.urlsafeB64decode = .ok bytes

/-- Only `ValueError` leaves the decoding of a field. -/
theorem PyText.urlsafeB64decode_error {text : PyText} {raised : Raised}
    (failed : text.urlsafeB64decode = .error raised) : raised = .builtin .valueError := by
  unfold PyText.urlsafeB64decode DeviceOrchestrator.urlsafeB64decode at failed
  split at failed
  · cases failed
    rfl
  · rename_i chars _
    cases decoded : Base64.decode chars with
    | error error =>
      rw [decoded] at failed
      cases failed
      rfl
    | ok bytes =>
      rw [decoded] at failed
      cases failed

/-- A field that is not base64 raises. -/
theorem PyText.urlsafeB64decode_not {text : PyText} (other : ¬ text.Base64) :
    text.urlsafeB64decode = .error (.builtin .valueError) := by
  cases decoded : text.urlsafeB64decode with
  | ok bytes => exact absurd ⟨bytes, decoded⟩ other
  | error raised => rw [PyText.urlsafeB64decode_error decoded]

section
variable {blob version salt nonce ciphertext tag : PyText}

/-- **Five fields of which four are base64 are read.** -/
theorem PyText.splitBlob_read
    (five : blob.splitOn (CodePoint.ofChar '$') = [version, salt, nonce, ciphertext, tag])
    (base64 : ∀ field ∈ [salt, nonce, ciphertext, tag], PyText.Base64 field) :
    ∃ parts, blob.splitBlob = .ok (version, parts) := by
  simp only [List.mem_cons, List.not_mem_nil, or_false, forall_eq_or_imp, forall_eq] at base64
  obtain ⟨⟨salt', salted⟩, ⟨nonce', nonced⟩, ⟨ciphertext', enciphered⟩, tag', tagged⟩ := base64
  refine ⟨(salt', nonce', ciphertext', tag'), ?_⟩
  simp only [PyText.splitBlob, five, salted, nonced, enciphered, tagged]
  rfl

/-- **A field that is not base64 raises `ValueError`**, whichever of the four it is. -/
theorem PyText.splitBlob_raises
    (five : blob.splitOn (CodePoint.ofChar '$') = [version, salt, nonce, ciphertext, tag])
    (other : ¬ ∀ field ∈ [salt, nonce, ciphertext, tag], PyText.Base64 field) :
    blob.splitBlob = .error (.builtin .valueError) := by
  simp only [List.mem_cons, List.not_mem_nil, or_false, forall_eq_or_imp, forall_eq] at other
  simp only [PyText.splitBlob, five]
  by_cases salted : PyText.Base64 salt
  · by_cases nonced : PyText.Base64 nonce
    · by_cases enciphered : PyText.Base64 ciphertext
      · have untagged : ¬ PyText.Base64 tag :=
          fun tagged => other ⟨salted, nonced, enciphered, tagged⟩
        obtain ⟨_, salted⟩ := salted
        obtain ⟨_, nonced⟩ := nonced
        obtain ⟨_, enciphered⟩ := enciphered
        rw [salted, nonced, enciphered, PyText.urlsafeB64decode_not untagged]
        rfl
      · obtain ⟨_, salted⟩ := salted
        obtain ⟨_, nonced⟩ := nonced
        rw [salted, nonced, PyText.urlsafeB64decode_not enciphered]
        rfl
    · obtain ⟨_, salted⟩ := salted
      rw [salted, PyText.urlsafeB64decode_not nonced]
      rfl
  · rw [PyText.urlsafeB64decode_not salted]
    rfl

end

/-- **Another number of fields is `AuthError`.** -/
theorem PyText.splitBlob_malformed {blob : PyText}
    (other : ∀ version salt nonce ciphertext tag,
      blob.splitOn (CodePoint.ofChar '$') ≠ [version, salt, nonce, ciphertext, tag]) :
    blob.splitBlob = .error (.auth "malformed secret blob") := by
  unfold PyText.splitBlob
  split
  · rename_i version salt nonce ciphertext tag five
    exact absurd five (other version salt nonce ciphertext tag)
  · rfl

/-! ## Sealed blobs -/

namespace SecretBox

/-- An answer of `open` that its callers are ready for. -/
def Opens (answer : Except Raised String) : Prop :=
  (∃ text, answer = .ok text) ∨ ∃ message, answer = .error (.auth message)

/-- A blob whose decoding raises nothing. -/
structure Openable (primitives : Primitives) (box : SecretBox) (blob : PyText) : Prop where
  /-- Of five fields the last four are base64. -/
  base64 : ∀ version salt nonce ciphertext tag,
    blob.splitOn (CodePoint.ofChar '$') = [version, salt, nonce, ciphertext, tag] →
      ∀ field ∈ [salt, nonce, ciphertext, tag], PyText.Base64 field
  /-- A v1 blob with the right tag holds UTF-8. -/
  utf8 : ∀ salt nonce ciphertext,
    blob.splitBlob = .ok (PyText.ofString "v1", salt, nonce, ciphertext,
      box.expected primitives salt nonce ciphertext) →
      ∃ text, decodeUtf8 (box.plain primitives salt nonce ciphertext) = .ok text

variable {opener : Opener} {primitives : Primitives} {box : SecretBox} {blob : PyText}

/-- `ValueError` is nothing that a caller is ready for. -/
theorem not_opens_valueError : ¬ Opens (.error (.builtin .valueError)) := by
  rintro (⟨text, same⟩ | ⟨message, same⟩)
  · cases same
  · cases same

/-- What `open` does with a blob that is not split. -/
theorem openText_unsplit {raised : Raised} (unsplit : blob.splitBlob = .error raised) :
    box.openText opener primitives blob = .error raised := by
  unfold openText
  rw [unsplit]
  rfl

/-- A blob of another version than v1 is opened or refused. -/
theorem opens_other {version : PyText} {salt nonce ciphertext tag : Bytes}
    (parts : blob.splitBlob = .ok (version, salt, nonce, ciphertext, tag))
    (other : version ≠ PyText.ofString "v1") : Opens (box.openText opener primitives blob) := by
  unfold openText
  simp only [parts, bind, Except.bind]
  by_cases v2 : version = PyText.ofString "v2"
  · rw [if_pos v2]
    cases opener.aesgcm with
    | none => exact .inr ⟨_, rfl⟩
    | some decrypt =>
      dsimp only
      cases decrypt ((box.derive primitives salt).take 32) nonce ciphertext with
      | none => exact .inr ⟨_, rfl⟩
      | some text => exact .inl ⟨text, rfl⟩
  · rw [if_neg v2, if_pos other]
    exact .inr ⟨_, rfl⟩

/-- What `open` does with a v1 blob. -/
theorem openText_v1 {salt nonce ciphertext tag : Bytes}
    (parts : blob.splitBlob = .ok (PyText.ofString "v1", salt, nonce, ciphertext, tag)) :
    box.openText opener primitives blob =
      if box.expected primitives salt nonce ciphertext = tag then
        decodeUtf8 (box.plain primitives salt nonce ciphertext)
      else .error (.auth "credential blob failed authentication") := by
  have apart : PyText.ofString "v1" ≠ PyText.ofString "v2" := by decide
  unfold openText
  simp only [parts, bind, Except.bind]
  rw [if_neg apart, if_neg (not_not_intro rfl), ite_not]

/-- A v1 blob is opened or refused exactly if a right tag stands over UTF-8. -/
theorem opens_v1_iff {salt nonce ciphertext tag : Bytes}
    (parts : blob.splitBlob = .ok (PyText.ofString "v1", salt, nonce, ciphertext, tag)) :
    Opens (box.openText opener primitives blob) ↔
      (box.expected primitives salt nonce ciphertext = tag →
        ∃ text, decodeUtf8 (box.plain primitives salt nonce ciphertext) = .ok text) := by
  rw [openText_v1 parts]
  by_cases right : box.expected primitives salt nonce ciphertext = tag
  · rw [if_pos right]
    constructor
    · rintro (opened | ⟨message, refused⟩) _
      · exact opened
      · cases decodeUtf8_error refused
    · intro utf8
      exact .inl (utf8 right)
  · rw [if_neg right]
    exact ⟨fun _ same => absurd same right, fun _ => .inr ⟨_, rfl⟩⟩

/-- What opening a v1 blob with its right tag has to read is UTF-8. -/
def Reads (primitives : Primitives) (box : SecretBox) (version : PyText)
    (salt nonce ciphertext tag : Bytes) : Prop :=
  version = PyText.ofString "v1" → box.expected primitives salt nonce ciphertext = tag →
    ∃ text, decodeUtf8 (box.plain primitives salt nonce ciphertext) = .ok text

section
variable {version : PyText} {salt nonce ciphertext tag : Bytes}

/-- A blob that was split is opened or refused exactly if what it has to read is UTF-8. -/
theorem opens_iff_reads
    (parts : blob.splitBlob = .ok (version, salt, nonce, ciphertext, tag)) :
    Opens (box.openText opener primitives blob) ↔
      Reads primitives box version salt nonce ciphertext tag := by
  by_cases v1 : version = PyText.ofString "v1"
  · subst v1
    rw [opens_v1_iff parts]
    exact ⟨fun utf8 _ => utf8, fun reads => reads rfl⟩
  · have opens := @opens_other opener primitives box blob version salt nonce ciphertext tag parts v1
    exact ⟨fun _ same => absurd same v1, fun _ => opens⟩

/-- A blob of five fields that was split decodes exactly if what it has to read is UTF-8. -/
theorem openable_iff_reads
    (parts : blob.splitBlob = .ok (version, salt, nonce, ciphertext, tag))
    (base64 : ∀ version salt nonce ciphertext tag,
      blob.splitOn (CodePoint.ofChar '$') = [version, salt, nonce, ciphertext, tag] →
        ∀ field ∈ [salt, nonce, ciphertext, tag], PyText.Base64 field) :
    Openable primitives box blob ↔ Reads primitives box version salt nonce ciphertext tag := by
  constructor
  · intro openable v1 right
    apply openable.utf8 salt nonce ciphertext
    rw [parts, v1, right]
  · intro reads
    refine ⟨base64, fun salt nonce ciphertext same => ?_⟩
    rw [parts] at same
    cases same
    exact reads rfl rfl

end

/-- A blob that has not five fields decodes: there is nothing to decode. -/
theorem Openable.of_malformed (other : ∀ version salt nonce ciphertext tag,
    blob.splitOn (CodePoint.ofChar '$') ≠ [version, salt, nonce, ciphertext, tag]) :
    Openable primitives box blob where
  base64 version salt nonce ciphertext tag five := absurd five (other _ _ _ _ _)
  utf8 salt nonce ciphertext parts := by
    rw [PyText.splitBlob_malformed other] at parts
    cases parts

/-- **A blob is opened or refused with `AuthError` exactly if decoding it raises nothing**: either
it has not five fields, or four of them are base64 and, where its tag is right, it holds UTF-8. -/
theorem openText_opens_iff (opener : Opener) (primitives : Primitives) (box : SecretBox)
    (blob : PyText) :
    Opens (box.openText opener primitives blob) ↔ Openable primitives box blob := by
  by_cases fields : ∃ version salt nonce ciphertext tag,
      blob.splitOn (CodePoint.ofChar '$') = [version, salt, nonce, ciphertext, tag]
  · obtain ⟨version, salt, nonce, ciphertext, tag, five⟩ := fields
    by_cases base64 : ∀ field ∈ [salt, nonce, ciphertext, tag], PyText.Base64 field
    · obtain ⟨⟨salt', nonce', ciphertext', tag'⟩, parts⟩ := PyText.splitBlob_read five base64
      rw [opens_iff_reads parts, openable_iff_reads parts]
      intro _ _ _ _ _ same
      rw [five] at same
      cases same
      exact base64
    · have raised := PyText.splitBlob_raises five base64
      rw [openText_unsplit raised]
      constructor
      · intro opens
        exact absurd opens not_opens_valueError
      · intro openable
        exact absurd (openable.base64 _ _ _ _ _ five) base64
  · have other : ∀ version salt nonce ciphertext tag,
        blob.splitOn (CodePoint.ofChar '$') ≠ [version, salt, nonce, ciphertext, tag] :=
      fun version salt nonce ciphertext tag five =>
        fields ⟨version, salt, nonce, ciphertext, tag, five⟩
    rw [openText_unsplit (PyText.splitBlob_malformed other)]
    exact ⟨fun _ => .of_malformed other, fun _ => .inr ⟨_, rfl⟩⟩

/-- Opening a text raises `ValueError`. -/
def Misread (blob : String) : Prop :=
  passBox.openText ⟨fun _ => "", none⟩ transparent (PyText.ofString blob) =
      .error (.builtin .valueError) ∧
    ¬ Opens (passBox.openText ⟨fun _ => "", none⟩ transparent (PyText.ofString blob))

/-- **One digit in a field is enough**, also where the version is unknown, and so is a character
that is not ASCII. -/
theorem openText_raises : Misread "v1$A$$$" ∧ Misread "v3$$$$A" ∧ Misread "v1$$é$$" := by
  have misread : ∀ blob ∈ ["v1$A$$$", "v3$$$$A", "v1$$é$$"],
      passBox.openText ⟨fun _ => "", none⟩ transparent (PyText.ofString blob) =
        .error (.builtin .valueError) := by
    decide +kernel
  have raises : ∀ blob ∈ ["v1$A$$$", "v3$$$$A", "v1$$é$$"], Misread blob := by
    intro blob member
    have raised := misread blob member
    exact ⟨raised, raised ▸ not_opens_valueError⟩
  exact ⟨raises _ (by simp), raises _ (by simp), raises _ (by simp)⟩

end SecretBox

/-! ## Blobs that are texts of the source -/

/-- Decoding a text of the source is decoding its characters. -/
theorem PyText.urlsafeB64decode_ofChars (chars : List Char) :
    PyText.urlsafeB64decode (chars.map CodePoint.ofChar) =
      DeviceOrchestrator.urlsafeB64decode chars := by
  have tests : (chars.map CodePoint.ofChar).all (fun point => point.val < 128) =
      chars.all fun char => char.toNat < 128 := by
    simp [List.all_map, Function.comp_def, CodePoint.val_ofChar]
  have back : (chars.map CodePoint.ofChar).map (fun point => Char.ofNat point.val) = chars := by
    simp [CodePoint.val_ofChar, Function.comp_def]
  unfold PyText.urlsafeB64decode PyText.ascii
  rw [tests]
  by_cases plain : (chars.all fun char => char.toNat < 128) = true
  · rw [if_pos plain, back]
  · rw [if_neg plain]
    unfold DeviceOrchestrator.urlsafeB64decode Base64.decode
    rw [if_neg plain]
    rfl

/-- Splitting before an injective renaming is splitting after it. -/
theorem splitOn_map {α β : Type} [DecidableEq α] [DecidableEq β] {rename : α → β}
    (injective : Function.Injective rename) (mark : α) (items : List α) :
    (items.map rename).splitOn (rename mark) = (items.splitOn mark).map (List.map rename) := by
  induction items with
  | nil => rfl
  | cons head rest ih =>
    rw [List.map_cons, List.splitOn_cons_eq_if_modifyHead, List.splitOn_cons_eq_if_modifyHead, ih]
    by_cases here : head = mark
    · simp [here]
    · have apart : rename head ≠ rename mark := fun same => here (injective same)
      simp only [beq_iff_eq, apart, here, if_false]
      cases rest.splitOn mark <;> rfl

/-- A blob of the source is split alike. -/
theorem PyText.splitBlob_ofString (blob : String) :
    (PyText.ofString blob).splitBlob = (Blob.split blob).map fun parts =>
      (PyText.ofString parts.version, parts.salt, parts.nonce, parts.ciphertext, parts.tag) := by
  unfold PyText.splitBlob Blob.split PyText.ofString
  rw [splitOn_map CodePoint.ofChar_injective]
  generalize blob.toList.splitOn '$' = pieces
  rcases pieces with
    _ | ⟨version, _ | ⟨salt, _ | ⟨nonce, _ | ⟨ciphertext, _ | ⟨tag, _ | ⟨more, rest⟩⟩⟩⟩⟩⟩
  case cons.cons.cons.cons.cons.nil =>
    simp only [List.map_cons, List.map_nil, PyText.urlsafeB64decode_ofChars, bind, Except.bind]
    cases DeviceOrchestrator.urlsafeB64decode salt with
    | error raised => rfl
    | ok salt =>
      cases DeviceOrchestrator.urlsafeB64decode nonce with
      | error raised => rfl
      | ok nonce =>
        cases DeviceOrchestrator.urlsafeB64decode ciphertext with
        | error raised => rfl
        | ok ciphertext =>
          cases DeviceOrchestrator.urlsafeB64decode tag with
          | error raised => rfl
          | ok tag => simp [Except.map]
  all_goals rfl

namespace SecretBox

/-- **A blob of the source is opened as `openBlob` opens it**, where `cryptography` is not
installed. -/
theorem openText_ofString (python : Python) (opener : Opener)
    (shows : ∀ version, opener.repr (PyText.ofString version) = python.showText version)
    (missing : opener.aesgcm = none) (primitives : Primitives) (box : SecretBox) (blob : String) :
    box.openText opener primitives (PyText.ofString blob) =
      box.openBlob python primitives blob := by
  have named : ∀ version known : String,
      PyText.ofString version = PyText.ofString known ↔ version = known := by
    intro version known
    unfold PyText.ofString
    rw [List.map_inj_right CodePoint.ofChar_injective, String.toList_inj]
  unfold openText openBlob
  rw [PyText.splitBlob_ofString]
  cases Blob.split blob with
  | error raised => rfl
  | ok parts =>
    simp only [Except.map, bind, Except.bind, missing, named, shows, ne_eq]
    rfl

end SecretBox

end DeviceOrchestrator
