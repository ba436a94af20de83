import DeviceOrchestrator.Targets.Live

/-!
# What is published does not depend on the secrets

Two runs of a task with credential stores that differ in the secrets only are compared step by step.
Their scenes differ in the token texts and in the headers in force, and in what the driver makes of
them; nothing of that is read by the code that decides how a step ends, except by one call:
`Credential.header` encodes the secret, and the exception of `encode` shows what it refused.
-/
namespace DeviceOrchestrator

variable {World : Type}

/-- Two calls answer alike. -/
def Alike {Value : Type} (same : World → World → Prop) (op op' : World → Value × World) : Prop :=
  ∀ world world', same world world' →
    (op world).1 = (op' world').1 ∧ same (op world).2 (op' world').2

/-- No answer depends on the headers or the keys that the driver was given. -/
structure Blind (outside : Outside World) (same : World → World → Prop) : Prop where
  /-- `time.time()`. -/
  time : Alike same outside.time outside.time
  /-- `ctx.remaining_s()`. -/
  remaining : Alike same outside.remaining outside.remaining
  /-- `asyncio.sleep`. -/
  sleep : ∀ seconds, Alike same (outside.sleep seconds) (outside.sleep seconds)
  /-- `SessionManager.ensure`. -/
  ensure : Alike same outside.ensure outside.ensure
  /-- `driver.goto`. -/
  goto : ∀ url budgetMs, Alike same (outside.goto url budgetMs) (outside.goto url budgetMs)
  /-- `driver.click` of the browser. -/
  click : ∀ selector budgetMs,
    Alike same (outside.click selector budgetMs) (outside.click selector budgetMs)
  /-- `driver.fill`. -/
  fill : ∀ selector text budgetMs,
    Alike same (outside.fill selector text budgetMs) (outside.fill selector text budgetMs)
  /-- `driver.text_of` of the browser. -/
  textOf : ∀ selector budgetMs,
    Alike same (outside.textOf selector budgetMs) (outside.textOf selector budgetMs)
  /-- `driver.set_headers`, whatever the headers. -/
  setHeaders : ∀ headers headers',
    Alike same (outside.setHeaders headers) (outside.setHeaders headers')
  /-- `driver.cookies`. -/
  cookies : Alike same outside.cookies outside.cookies
  /-- `driver.set_cookies`. -/
  setCookies : ∀ cookies, Alike same (outside.setCookies cookies) (outside.setCookies cookies)
  /-- `driver.read_storage`. -/
  readStorage : ∀ key, Alike same (outside.readStorage key) (outside.readStorage key)
  /-- `driver.find`. -/
  find : ∀ strategy value,
    Alike same (outside.find strategy value) (outside.find strategy value)
  /-- `driver.click` of the phone. -/
  tap : ∀ element, Alike same (outside.tap element) (outside.tap element)
  /-- `driver.send_keys`, whatever the keys. -/
  sendKeys : ∀ element keys keys',
    Alike same (outside.sendKeys element keys) (outside.sendKeys element keys')
  /-- `driver.text_of` of the phone. -/
  elementText : ∀ element, Alike same (outside.elementText element) (outside.elementText element)
  /-- `driver.source`. -/
  source : Alike same outside.source outside.source

/-- Scenes that differ in what is secret only. -/
structure SameScene (same : World → World → Prop) (scene scene' : Scene World) : Prop where
  /-- Nothing outside can tell them apart. -/
  world : same scene.world scene'.world
  /-- The same events were published. -/
  published : scene.published = scene'.published
  /-- The same realms have a token, with the same expiry. -/
  tokens : ∀ realm, (scene.tokens realm).map Auth.CachedToken.expiresAt =
    (scene'.tokens realm).map Auth.CachedToken.expiresAt
  /-- The cookie jar is the same. -/
  jar : scene.jar = scene'.jar

namespace Auth

variable {jwtExpiry : PyText → Except Raised (Option Float)}

/-- Credentials that differ in the secret only, and `jwt_expiry` does not see the difference. -/
structure Credential.Alike (jwtExpiry : PyText → Except Raised (Option Float))
    (credential credential' : Credential) : Prop where
  /-- The same reference. -/
  ref : credential.ref = credential'.ref
  /-- The same kind. -/
  kind : credential.kind = credential'.kind
  /-- The same user. -/
  username : credential.username = credential'.username
  /-- Both have a secret or none. -/
  secret : Option.Rel (fun secret secret' => jwtExpiry secret = jwtExpiry secret')
    credential.secret credential'.secret

/-- A reference is resolved alike: to credentials that are alike, or to one error. -/
inductive Resolved (jwtExpiry : PyText → Except Raised (Option Float)) :
    Except Raised Credential → Except Raised Credential → Prop
  /-- To credentials. -/
  | ok {credential credential' : Credential} : credential.Alike jwtExpiry credential' →
      Resolved jwtExpiry (.ok credential) (.ok credential')
  /-- To one error. -/
  | error (raised : Raised) : Resolved jwtExpiry (.error raised) (.error raised)

/-- Stores that differ in the secrets only. -/
def CredentialStore.Alike (python : Python) (jwtExpiry : PyText → Except Raised (Option Float))
    (store store' : CredentialStore) : Prop :=
  ∀ ref, Resolved jwtExpiry (store.resolve python ref) (store'.resolve python ref)

/-- What `encode` says of the text that the `basic` header of a credential is made of, where it
refuses it. -/
def Credential.complaint (credential : Credential) : Option String :=
  if credential.kind = "basic" then
    match credential.username, credential.secret with
    | some username, some secret =>
      match (pair username secret).encode with
      | .error error => some error.text
      | .ok _ => none
    | _, _ => none
  else none

/-- How `header` ends, beside the complaint. -/
inductive Credential.Headed (credential : Credential) : Except StepError (String × PyText) → Prop
  /-- There is a header. -/
  | made (found : String × PyText) : credential.complaint = none → Headed credential (.ok found)
  /-- `encode` refuses the text. -/
  | refused (reason : String) : credential.complaint = some reason →
      Headed credential (.error (.encode reason))
  /-- The credential has no such header. -/
  | unfit (message : String) : credential.complaint = none →
      Headed credential (.error (.known (.auth message)))

/-- `header` ends in one of these ways. -/
theorem Credential.header_cases (credential : Credential) :
    credential.Headed credential.header := by
  obtain ⟨ref, kind, username, secret⟩ := credential
  by_cases basic : kind = "basic"
  · subst basic
    cases username with
    | none => exact .unfit _ rfl
    | some username =>
      cases secret with
      | none => exact .unfit _ rfl
      | some secret =>
        cases encoded : (pair username secret).encode with
        | error refused =>
          have header : (⟨ref, "basic", username, secret⟩ : Credential).header =
              .error (.encode refused.text) := by
            simp [Credential.header, encoded]
          rw [header]
          exact .refused _ (by simp [complaint, encoded])
        | ok bytes =>
          have header : (⟨ref, "basic", username, secret⟩ : Credential).header =
              .ok ("Authorization", PyText.ofString "Basic " ++ b64encode bytes) := by
            simp [Credential.header, encoded]
          rw [header]
          exact .made _ (by simp [complaint, encoded])
  · have quiet : (⟨ref, kind, username, secret⟩ : Credential).complaint = none := if_neg basic
    by_cases bearer : kind = "bearer"
    · subst bearer
      cases secret with
      | none => exact .unfit _ quiet
      | some secret => exact .made _ quiet
    · have header : (⟨ref, kind, username, secret⟩ : Credential).header = .error (.known
          (.auth s!"credential {ref} of kind {kind} has no header form")) := by
        simp [Credential.header, basic, bearer]
      rw [header]
      exact .unfit _ quiet

/-- **`header`** differs in the header itself, or in what `encode` says of the secret. -/
theorem Credential.Alike.header {credential credential' : Credential}
    (alike : credential.Alike jwtExpiry credential')
    (complain : credential.complaint = credential'.complaint) :
    (∃ found found', credential.header = .ok found ∧ credential'.header = .ok found') ∨
      ∃ failure, credential.header = .error failure ∧ credential'.header = .error failure := by
  obtain ⟨ref, kind, username, secret⟩ := credential
  obtain ⟨ref', kind', username', secret'⟩ := credential'
  obtain ⟨rfl, rfl, rfl, secrets⟩ := alike
  simp only [complaint] at complain
  simp only [Credential.header]
  by_cases basic : kind = "basic"
  · simp only [if_pos basic] at complain ⊢
    cases username with
    | none => exact .inr ⟨_, rfl, rfl⟩
    | some username =>
      cases secrets with
      | none => exact .inr ⟨_, rfl, rfl⟩
      | @some secret secret' outcome =>
        dsimp only at complain ⊢
        generalize (pair username secret).encode = raw at complain ⊢
        generalize (pair username secret').encode = raw' at complain ⊢
        cases raw with
        | error refused =>
          cases raw' with
          | error refused' =>
            obtain texts := Option.some.inj complain
            exact .inr ⟨_, rfl, by simp only [texts]⟩
          | ok bytes' => cases complain
        | ok bytes =>
          cases raw' with
          | error refused' => cases complain
          | ok bytes' => exact .inl ⟨_, _, rfl, rfl⟩
  · simp only [if_neg basic]
    by_cases bearer : kind = "bearer"
    · simp only [if_pos bearer]
      cases secrets with
      | none => exact .inr ⟨_, rfl, rfl⟩
      | some outcome => exact .inl ⟨_, _, rfl, rfl⟩
    · simp only [if_neg bearer]
      exact .inr ⟨_, rfl, rfl⟩

/-- The `basic` headers of the credentials that a step can name are refused alike, as far as their
references are in a set. -/
def CredentialStore.Encode (python : Python) (named : String → Prop)
    (store store' : CredentialStore) : Prop :=
  ∀ ref : Json, ref.truthy = true → named (ref.text python) → ∀ credential credential',
    store.resolve python (ref.text python) = .ok credential →
    store'.resolve python (ref.text python) = .ok credential' →
    credential.complaint = credential'.complaint

end Auth

namespace Live

variable {same : World → World → Prop} {Value : Type}

/-- Two acts that leave the same events and end alike, up to what is secret. -/
abbrev Twins {Other : Type} (same : World → World → Prop) (values : Value → Other → Prop)
    (act : Act World Value) (act' : Act World Other) : Prop :=
  Twin (SameScene same) values act act'

/-- A call that cannot raise is its own twin. -/
theorem twin_read {op op' : World → Value × World} (alike : Alike same op op') :
    Twins same Eq (read op) (read op') := by
  apply Twin.act
  intro scene scene' before
  obtain ⟨answer, world⟩ := alike _ _ before.world
  exact .ok answer ⟨world, before.published, before.tokens, before.jar⟩

/-- A result that may be an exception is its own twin. -/
theorem twin_raising (result : Except Raised Value) :
    Twins same Eq (raising result) (raising result) := Twin.lift _

/-- A call that can raise is its own twin. -/
theorem twin_call {op op' : World → Except Raised Value × World} (alike : Alike same op op') :
    Twins same Eq (call op) (call op') := by
  refine Twin.andThen (twin_read alike) fun answer => ?_
  exact twin_raising answer

/-- The entries of a realm expire alike. -/
theorem twin_cachedToken (realm : String) :
    Twins same (fun cached cached' =>
        cached.map Auth.CachedToken.expiresAt = cached'.map Auth.CachedToken.expiresAt)
      (cachedToken realm) (cachedToken realm) := by
  apply Twin.act
  intro scene scene' before
  exact .ok (before.tokens realm) before

/-- Entries that expire alike are stored alike. -/
theorem twin_storeToken (realm : String) {cached cached' : Auth.CachedToken}
    (expire : cached.expiresAt = cached'.expiresAt) :
    Twins same Eq (storeToken realm cached) (storeToken realm cached') := by
  apply Twin.act
  intro scene scene' before
  refine .ok rfl ⟨before.world, before.published, fun other => ?_, before.jar⟩
  by_cases own : other = realm
  · simp [own, expire]
  · simpa [Function.update_of_ne own] using before.tokens other

/-- The cookies of a realm are the same. -/
theorem twin_storedCookies (realm : String) :
    Twins same Eq (storedCookies realm) (storedCookies realm) := by
  apply Twin.act
  intro scene scene' before
  exact .ok (congrFun before.jar realm) before

/-- Cookies are saved alike. -/
theorem twin_saveCookies (realm : String) (cookies : List Fields) :
    Twins same Eq (saveCookies realm cookies) (saveCookies realm cookies) := by
  apply Twin.act
  intro scene scene' before
  refine .ok rfl ⟨before.world, before.published, before.tokens, ?_⟩
  rw [before.jar]

/-- The fields of a step, which is a dict. -/
theorem twin_fields (step : Json) :
    Twins same (fun fields fields' => fields = fields' ∧ step = .obj fields)
      (raising (fieldsOf step)) (raising (fieldsOf step)) := by
  intro scene scene' before
  cases step with
  | obj fields => exact .ok ⟨rfl, rfl⟩ before
  | _ => exact .error _ before

/-- What only changes the headers is its own twin. -/
theorem twin_headers {change change' : Scene World → String → Option PyText} :
    Twins same Eq (Procedure.act fun scene => (.ok (), { scene with headers := change scene }))
      (Procedure.act fun scene => (.ok (), { scene with headers := change' scene })) := by
  apply Twin.act
  intro scene scene' before
  exact .ok rfl ⟨before.world, before.published, before.tokens, before.jar⟩

section
variable {setting : TaskSetting World} {store store' : Auth.CredentialStore}

/-- Tokens with one outcome of `jwt_expiry` expire alike. -/
theorem twin_expiry {raw raw' : PyText} (outcome : setting.jwtExpiry raw = setting.jwtExpiry raw') :
    Twins same Eq (expiry setting raw) (expiry setting raw') := by
  unfold expiry
  rw [outcome]
  split
  · exact Twin.pure rfl
  · exact twin_raising _

/-- A resolved credential is its own twin, up to the secret. -/
theorem twin_resolved {result result' : Except Raised Auth.Credential}
    (resolved : Auth.Resolved setting.jwtExpiry result result') :
    Twins same (fun credential credential' => result = .ok credential ∧ result' = .ok credential' ∧
      credential.Alike setting.jwtExpiry credential') (raising result) (raising result') := by
  intro scene scene' before
  cases resolved with
  | ok alike => exact .ok ⟨rfl, rfl, alike⟩ before
  | error raised => exact .error (StepError.known raised) before

/-- The credential of a step is resolved alike. -/
theorem Web.resolve_alike
    (alike : store.Alike setting.python setting.jwtExpiry store') (step : Fields) :
    Auth.Resolved setting.jwtExpiry (Web.resolve setting (some store) step)
      (Web.resolve setting (some store') step) := by
  unfold Web.resolve
  dsimp only
  split
  · exact .error _
  · exact alike _

variable (blind : Blind setting.outside same)
include blind

/-- An event is published alike. -/
theorem twin_progress (phase message : String) (data : Fields) :
    Twins same Eq (progress setting phase message data) (progress setting phase message data) := by
  refine Twin.andThen (twin_read blind.time) fun ts => ?_
  apply Twin.act
  intro scene scene' before
  refine .ok rfl ⟨before.world, ?_, before.tokens, before.jar⟩
  rw [before.published]

/-- The same realms have a fresh token. -/
theorem twin_freshToken (realm : String) :
    Twins same (fun token token' => token.isSome = token'.isSome)
      (freshToken setting realm) (freshToken setting realm) := by
  refine Twin.bind (twin_cachedToken realm) ?_
  intro cached cached' expire
  cases cached with
  | none =>
    obtain rfl : cached' = none := by simpa using expire
    exact Twin.pure rfl
  | some cached =>
    cases cached' with
    | none => simp at expire
    | some cached' =>
      have expire : cached.expiresAt = cached'.expiresAt := by simpa using expire
      simp only [expire]
      cases cached'.expiresAt with
      | none => exact Twin.pure rfl
      | some expiresAt =>
        refine Twin.andThen (twin_read blind.time) fun now => ?_
        apply Twin.pure
        split <;> rfl

/-- The time that is left is rounded alike. -/
theorem twin_ttl (expiresAt : Option Float) :
    Twins same Eq (ttl setting expiresAt) (ttl setting expiresAt) := by
  unfold ttl
  split
  · exact Twin.pure rfl
  · split
    · exact Twin.pure rfl
    · refine Twin.andThen (twin_read blind.time) fun now => ?_
      refine Twin.andThen (twin_raising _) fun left => ?_
      exact Twin.pure rfl

/-- **The token cache** asks for a refresh in both runs or in none, and stores entries that expire
alike. -/
theorem twin_getToken (realm : String) {refresh refresh' : PyText}
    (outcome : setting.jwtExpiry refresh = setting.jwtExpiry refresh') :
    Twins same (fun _ _ => True) (getToken setting realm refresh)
      (getToken setting realm refresh') := by
  refine Twin.bind (twin_freshToken blind realm) ?_
  intro token token' found
  cases token with
  | some token =>
    cases token' with
    | some token' => exact Twin.pure trivial
    | none => cases found
  | none =>
    obtain rfl : token' = none := by simpa using found
    refine Twin.bind (twin_freshToken blind realm) ?_
    intro token token' found
    cases token with
    | some token =>
      cases token' with
      | some token' => exact Twin.pure trivial
      | none => cases found
    | none =>
      obtain rfl : token' = none := by simpa using found
      refine Twin.andThen (twin_expiry outcome) fun expiresAt => ?_
      refine Twin.andThen (twin_storeToken realm rfl) fun _ => ?_
      refine Twin.andThen (twin_ttl blind expiresAt) fun _ => ?_
      exact Twin.pure trivial

/-- What a token reports of its expiry. -/
theorem twin_ttlOf (raw : PyText) : Twins same Eq (ttlOf setting raw) (ttlOf setting raw) := by
  refine Twin.andThen (twin_expiry rfl) fun expiresAt => ?_
  exact twin_ttl blind expiresAt

/-- The same realms have a live session. -/
theorem twin_liveCookies (realm : String) :
    Twins same Eq (liveCookies setting realm) (liveCookies setting realm) := by
  refine Twin.andThen (twin_read blind.time) fun now => ?_
  refine Twin.andThen (twin_storedCookies realm) fun stored => ?_
  split
  · exact Twin.pure rfl
  · exact twin_raising _

/-- Headers are attached alike, whatever they are. -/
theorem twin_setHeaders (headers headers' : List (String × PyText)) :
    Twins same Eq (setHeaders setting headers) (setHeaders setting headers') := by
  refine Twin.andThen (twin_read (blind.setHeaders headers headers')) fun answered => ?_
  refine Twin.andThen twin_headers fun _ => ?_
  exact twin_raising answered.1

/-- A session is acquired alike. -/
theorem twin_acquire (kind : String) :
    Twins same Eq (acquire setting kind) (acquire setting kind) := by
  have acquiring : Twins same Eq (acquiring setting kind) (acquiring setting kind) :=
    Twin.andThen (twin_progress blind _ _ _) fun _ => twin_call blind.ensure
  refine Twin.andThen acquiring fun found => ?_
  refine Twin.andThen twin_headers fun _ => ?_
  refine Twin.andThen (twin_progress blind _ _ _) fun _ => ?_
  exact Twin.pure rfl

/-- A `wait` step waits alike. -/
theorem twin_wait (step : Fields) : Twins same Eq (wait setting step) (wait setting step) := by
  refine Twin.andThen (twin_raising _) fun seconds => ?_
  refine Twin.andThen (twin_raising _) fun _ => ?_
  exact twin_call (blind.sleep seconds)

/-- `basic` attaches headers alike, unless one of them is refused. -/
theorem Web.twin_basic {credential credential' : Auth.Credential} (realm : String)
    (alike : credential.Alike setting.jwtExpiry credential')
    (complain : credential.complaint = credential'.complaint) :
    Twins same Eq (Web.basic setting realm credential) (Web.basic setting realm credential') := by
  have headers : Twins same (fun _ _ => True)
      (Procedure.lift credential.header : Act World (String × PyText))
      (Procedure.lift credential'.header) := by
    intro scene scene' before
    obtain ⟨found, found', made, made'⟩ | ⟨failure, refused, refused'⟩ := alike.header complain
    · rw [Procedure.start_lift, Procedure.start_lift, made, made']
      exact .ok trivial before
    · rw [Procedure.start_lift, Procedure.start_lift, refused, refused']
      exact .error failure before
  apply Twin.bind headers
  intro found found' _
  refine Twin.andThen (twin_setHeaders blind _ _) fun _ => ?_
  refine Twin.andThen (twin_progress blind _ _ _) fun _ => ?_
  exact Twin.pure rfl

/-- `bearer` attaches tokens alike. -/
theorem Web.twin_bearer {credential credential' : Auth.Credential} (realm : String)
    (alike : credential.Alike setting.jwtExpiry credential') :
    Twins same Eq (Web.bearer setting realm credential)
      (Web.bearer setting realm credential') := by
  obtain ⟨ref, kind, username, secret⟩ := credential
  obtain ⟨ref', kind', username', secret'⟩ := credential'
  obtain ⟨rfl, rfl, rfl, secrets⟩ := alike
  cases secrets with
  | none => exact Twin.throw _
  | some outcome =>
    apply Twin.bind (twin_getToken blind realm outcome)
    intro token token' _
    refine Twin.andThen (twin_setHeaders blind _ _) fun _ => ?_
    refine Twin.andThen (twin_progress blind _ _ _) fun _ => ?_
    exact Twin.pure rfl

/-- `cookie` restores sessions alike. -/
theorem Web.twin_cookie (realm : String) :
    Twins same Eq (Web.cookie setting realm) (Web.cookie setting realm) := by
  refine Twin.andThen (twin_liveCookies blind realm) fun live => ?_
  split
  · refine Twin.andThen (twin_storedCookies realm) fun stored => ?_
    refine Twin.andThen (twin_call (blind.setCookies _)) fun _ => ?_
    refine Twin.andThen (twin_progress blind _ _ _) fun _ => ?_
    exact Twin.pure rfl
  · refine Twin.andThen (twin_progress blind _ _ _) fun _ => ?_
    exact Twin.pure rfl

/-- **An `auth` step** goes alike, unless its mode is `basic` and one of the headers is refused. -/
theorem Web.twin_auth {named : String → Prop} {step : Fields}
    (alike : store.Alike setting.python setting.jwtExpiry store')
    (encode : store.Encode setting.python named store')
    (names : Web.mode setting step = "basic" →
      named ((step.get "credential").text setting.python)) :
    Twins same Eq (Web.auth setting (some store) step) (Web.auth setting (some store') step) := by
  unfold Web.auth
  dsimp only
  split
  · exact Web.twin_cookie blind _
  · apply Twin.bind (twin_resolved (Web.resolve_alike alike step))
    intro credential credential' ⟨found, found', same'⟩
    split
    · rename_i basic
      apply Web.twin_basic blind _ same'
      have truthy : (step.get "credential").truthy = true := by
        by_contra falsy
        rw [Bool.not_eq_true] at falsy
        simp [Web.resolve, falsy] at found
      simp only [Web.resolve, truthy, Bool.not_true, Bool.false_eq_true, if_false] at found found'
      exact encode _ truthy (names basic) _ _ found found'
    · split
      · exact Web.twin_bearer blind _ same'
      · exact Twin.throw _

/-- A session is captured alike. -/
theorem Web.twin_captureSession (step : Fields) :
    Twins same Eq (Web.captureSession setting step) (Web.captureSession setting step) := by
  have token (realm : String) (captured : Fields) :
      Twins same Eq (Web.captureToken setting realm step captured)
        (Web.captureToken setting realm step captured) := by
    unfold Web.captureToken
    dsimp only
    split
    · refine Twin.andThen (twin_call (blind.readStorage _)) fun stored => ?_
      split
      · exact Twin.pure rfl
      · apply Twin.bind (twin_getToken blind realm rfl)
        intro _ _ _
        refine Twin.andThen (twin_ttlOf blind _) fun expires => ?_
        exact Twin.pure rfl
    · exact Twin.pure rfl
  refine Twin.andThen (twin_call blind.cookies) fun cookies => ?_
  refine Twin.andThen (twin_saveCookies _ cookies) fun _ => ?_
  refine Twin.andThen (token _ _) fun captured => ?_
  refine Twin.andThen (twin_progress blind _ _ _) fun _ => ?_
  exact Twin.pure rfl

/-- The `try` of a step goes alike. -/
theorem Web.twin_attempt {named : String → Prop} {step : Fields} {op : Json}
    (alike : store.Alike setting.python setting.jwtExpiry store')
    (encode : store.Encode setting.python named store')
    (names : op.isText "auth" = true → Web.mode setting step = "basic" →
      named ((step.get "credential").text setting.python)) (index : Nat) (budgetMs : Int) :
    Twins same Eq (Web.attempt setting (some store) step op index budgetMs)
      (Web.attempt setting (some store') step op index budgetMs) := by
  unfold Web.attempt
  dsimp only
  refine Twin.ite (fun isAuth => ?_) fun _ => Twin.ite (fun _ => ?_) fun _ =>
    Twin.ite (fun _ => ?_) fun _ => Twin.ite (fun _ => ?_) fun _ => Twin.ite (fun _ => ?_) fun _ =>
    Twin.ite (fun _ => ?_) fun _ => Twin.ite (fun _ => ?_) fun _ => Twin.pure rfl
  · refine Twin.andThen (Web.twin_auth blind alike encode (names isAuth)) fun _ => ?_
    exact Twin.pure rfl
  · refine Twin.andThen (Web.twin_captureSession blind step) fun _ => ?_
    exact Twin.pure rfl
  · refine Twin.andThen (twin_raising _) fun url => ?_
    refine Twin.andThen (twin_call (blind.goto _ _)) fun _ => ?_
    exact Twin.pure rfl
  · refine Twin.andThen (twin_raising _) fun selector => ?_
    refine Twin.andThen (twin_call (blind.click _ _)) fun _ => ?_
    exact Twin.pure rfl
  · refine Twin.andThen (twin_raising _) fun selector => ?_
    refine Twin.andThen (twin_call (blind.fill _ _ _)) fun _ => ?_
    exact Twin.pure rfl
  · refine Twin.andThen (twin_raising _) fun selector => ?_
    refine Twin.andThen (twin_call (blind.textOf _ _)) fun text => ?_
    exact Twin.pure rfl
  · refine Twin.andThen (twin_wait blind step) fun _ => ?_
    exact Twin.pure rfl

/-- The `auth` steps of a specification whose mode is `basic` name references of a set. -/
def Web.Names (python : Python) (named : String → Prop) (steps : List Json) : Prop :=
  ∀ fields, .obj fields ∈ steps → (Fields.get fields "op").isText "auth" = true →
    (Fields.getD fields "mode" (.str "cookie")).text python = "basic" →
    named ((Fields.get fields "credential").text python)

/-- One round goes alike. -/
theorem Web.twin_turn {named : String → Prop} {steps : List Json}
    (alike : store.Alike setting.python setting.jwtExpiry store')
    (encode : store.Encode setting.python named store')
    (names : Web.Names setting.python named steps) {step : Json} (member : step ∈ steps)
    (total index : Nat) (captured : Fields) :
    Twins same Eq (Web.turn setting (some store) total index captured step)
      (Web.turn setting (some store') total index captured step) := by
  refine Twin.andThen (twin_read blind.remaining) fun remaining => ?_
  refine Twin.ite (fun _ => Twin.throw _) fun _ => ?_
  apply Twin.bind (twin_fields step)
  rintro fields _ ⟨rfl, rfl⟩
  refine Twin.andThen (twin_raising _) fun budgetMs => ?_
  refine Twin.andThen (twin_progress blind _ _ _) fun _ => ?_
  have ran : Twins same Eq
      (Web.runStep setting (some store) fields (Fields.get fields "op") index budgetMs)
      (Web.runStep setting (some store') fields (Fields.get fields "op") index budgetMs) := by
    have tried := Web.twin_attempt blind alike encode (names fields member) index budgetMs
    refine Twin.andThen (tried.tryCatch fun failure => Twin.throw _) fun found => ?_
    split
    · exact Twin.pure rfl
    · exact Twin.throw _
  refine Twin.andThen ran fun found => ?_
  exact Twin.pure rfl

/-- **A task on a browser** goes alike. -/
theorem Web.twin_execute {named : String → Prop} {steps : List Json}
    (alike : store.Alike setting.python setting.jwtExpiry store')
    (encode : store.Encode setting.python named store')
    (names : Web.Names setting.python named steps) :
    Twins same Eq (Web.execute setting (some store) steps)
      (Web.execute setting (some store') steps) := by
  refine Twin.andThen (twin_acquire blind _) fun handle => ?_
  have taken := Twin.script (fun step member number captured captured' equal => by
    subst equal
    exact Web.twin_turn blind alike encode names member steps.length number captured) 1
    (rfl : ([] : Fields) = [])
  refine Twin.andThen taken fun captured => ?_
  exact Twin.pure rfl

omit blind in
/-- Secrets are revealed alike. -/
theorem Android.twin_reveal (alike : store.Alike setting.python setting.jwtExpiry store')
    (step : Fields) :
    Twins same (fun _ _ => True) (raising (Android.reveal setting (some store) step))
      (raising (Android.reveal setting (some store') step)) := by
  intro scene scene' before
  unfold Android.reveal
  dsimp only
  split
  · exact .error _ before
  · have resolved := alike ((step.get "credential").text setting.python)
    generalize store.resolve setting.python _ = result at resolved ⊢
    generalize store'.resolve setting.python _ = result' at resolved ⊢
    cases resolved with
    | error raised => cases raised <;> exact .error _ before
    | @ok credential credential' same' =>
      dsimp only
      rw [same'.username]
      split
      · cases credential'.username with
        | none => exact .error _ before
        | some username => exact .ok trivial before
      · have secrets := same'.secret
        generalize credential.secret = secret at secrets ⊢
        generalize credential'.secret = secret' at secrets ⊢
        cases secrets with
        | none => exact .error _ before
        | some outcome => exact .ok trivial before

/-- An element is found alike. -/
theorem Android.twin_element (step : Fields) :
    Twins same Eq (Android.element setting step) (Android.element setting step) := by
  refine Twin.andThen (twin_raising _) fun locator => ?_
  exact twin_call (blind.find _ _)

/-- A step on a phone goes alike. -/
theorem Android.twin_runStep (alike : store.Alike setting.python setting.jwtExpiry store')
    (step : Fields) (op : Json) (index : Nat) :
    Twins same Eq (Android.runStep setting (some store) step op index)
      (Android.runStep setting (some store') step op index) := by
  have element := Android.twin_element blind step
  unfold Android.runStep
  dsimp only
  refine Twin.ite (fun _ => ?_) fun _ => Twin.ite (fun _ => ?_) fun _ =>
    Twin.ite (fun _ => ?_) fun _ => Twin.ite (fun _ => ?_) fun _ => Twin.ite (fun _ => ?_) fun _ =>
    Twin.ite (fun _ => ?_) fun _ => Twin.throw _
  · refine Twin.andThen element fun found => ?_
    refine Twin.andThen (twin_call (blind.tap _)) fun _ => ?_
    exact Twin.pure rfl
  · refine Twin.andThen element fun found => ?_
    refine Twin.andThen (twin_call (blind.sendKeys _ _ _)) fun _ => ?_
    exact Twin.pure rfl
  · refine Twin.andThen element fun found => ?_
    apply Twin.bind (Android.twin_reveal alike step)
    intro secret secret' _
    refine Twin.andThen (twin_call (blind.sendKeys _ _ _)) fun _ => ?_
    exact Twin.pure rfl
  · refine Twin.andThen element fun found => ?_
    refine Twin.andThen (twin_call (blind.elementText _)) fun text => ?_
    exact Twin.pure rfl
  · refine Twin.andThen (twin_wait blind step) fun _ => ?_
    exact Twin.pure rfl
  · refine Twin.andThen (twin_call blind.source) fun source => ?_
    exact Twin.pure rfl

/-- **A task on a phone** goes alike, whatever the secrets. -/
theorem Android.twin_execute (alike : store.Alike setting.python setting.jwtExpiry store')
    (steps : List Json) :
    Twins same Eq (Android.execute setting (some store) steps)
      (Android.execute setting (some store') steps) := by
  have turn (step : Json) (total index : Nat) (captured : Fields) :
      Twins same Eq (Android.turn setting (some store) total index captured step)
        (Android.turn setting (some store') total index captured step) := by
    refine Twin.andThen (twin_read blind.remaining) fun remaining => ?_
    refine Twin.ite (fun _ => Twin.throw _) fun _ => ?_
    refine Twin.andThen (twin_raising _) fun fields => ?_
    refine Twin.andThen (twin_progress blind _ _ _) fun _ => ?_
    refine Twin.andThen (Android.twin_runStep blind alike _ _ index) fun found => ?_
    exact Twin.pure rfl
  refine Twin.andThen (twin_acquire blind _) fun handle => ?_
  have taken := Twin.script (fun step (_ : step ∈ steps) number captured captured' equal => by
    subst equal
    exact turn step steps.length number captured) 1 (rfl : ([] : Fields) = [])
  refine Twin.andThen taken fun captured => ?_
  exact Twin.pure rfl

end

/-- What others see of a task: how it ends, and the events it published. -/
def observed (act : Act World Json) (scene : Scene World) :
    Except StepError Json × List ProgressEvent :=
  ((act.start scene).1, (act.start scene).2.published)

/-- Twins cannot be told apart. -/
theorem observed_eq {act act' : Act World Json} (twins : Twins same Eq act act')
    {scene : Scene World} (world : same scene.world scene.world) :
    observed act scene = observed act' scene := by
  have ended := twins scene scene ⟨world, rfl, fun _ => rfl, rfl⟩
  unfold observed
  generalize act.start scene = one at ended ⊢
  generalize act'.start scene = two at ended ⊢
  cases ended with
  | ok related after =>
    rw [related]
    exact congrArg (Prod.mk _) after.published
  | error error after => exact congrArg (Prod.mk _) after.published

/-- **Secrets are not published**: with each of the two stores, every task on a phone, and every
task on a browser whose `basic` steps name references of the set, publishes the same events and
ends alike, wherever it starts and with every driver that is blind. -/
def Unpublished (python : Python) (jwtExpiry : PyText → Except Raised (Option Float))
    (store store' : Auth.CredentialStore) (named : String → Prop) : Prop :=
  ∀ {World : Type} (setting : TaskSetting World) (same : World → World → Prop),
    setting.python = python → setting.jwtExpiry = jwtExpiry → Blind setting.outside same →
    ∀ (steps : List Json) (scene : Scene World), same scene.world scene.world →
      observed (Android.execute setting (some store) steps) scene =
          observed (Android.execute setting (some store') steps) scene ∧
        (Web.Names python named steps →
          observed (Web.execute setting (some store) steps) scene =
            observed (Web.execute setting (some store') steps) scene)

section
variable (python : Python) (jwtExpiry : PyText → Except Raised (Option Float))

/-- A task among what is obliging. -/
def obliged : TaskSetting Unit where
  python := python
  outside := obliging
  context := ⟨"task-1", "cid-1", none, 1⟩
  jwtExpiry := jwtExpiry

/-- What is obliging is blind. -/
theorem blind_obliging : Blind obliging fun _ _ => True := by
  constructor
  all_goals
    intros
    intro world world' _
    exact ⟨rfl, trivial⟩

/-- A step that attaches the `basic` header of a reference. -/
def basicStep (ref : Json) : Fields :=
  [("op", .str "auth"), ("mode", .str "basic"), ("credential", ref)]

variable {python jwtExpiry}

/-- An event is published. -/
theorem yields_progress (phase message : String) (data : Fields) :
    (progress (obliged python jwtExpiry) phase message data).Yields (.ok ()) :=
  Procedure.Yields.bind (fun _ => rfl : (read _).Yields (.ok (0 : Float))) fun _ => rfl

/-- A session is opened. -/
theorem yields_acquire (kind : String) :
    (acquire (obliged python jwtExpiry) kind).Yields (.ok ⟨"sess-1", 1⟩) := by
  have ensured : (call (obliged python jwtExpiry).outside.ensure).Yields
      (.ok (⟨"sess-1", 1⟩, true)) := fun _ => rfl
  have cleared : (clearHeaders true : Act Unit Unit).Yields (.ok ()) := fun _ => rfl
  apply Procedure.Yields.bind (Procedure.Yields.bind (yields_progress _ _ _) ensured)
  apply Procedure.Yields.bind cleared
  exact Procedure.Yields.bind (yields_progress _ _ _) fun _ => rfl

variable {store store' : Auth.CredentialStore} {ref : Json} {credential : Auth.Credential}

/-- What `_auth` comes to in a `basic` step. -/
def attached (python : Python) (ref : Json) (credential : Auth.Credential) :
    Except StepError Fields :=
  credential.header.map fun _ => WebTarget.authReport "basic" (ref.text python) false

/-- A `basic` step ends as its header does. -/
theorem yields_auth (truthy : ref.truthy = true)
    (found : store.resolve python (ref.text python) = .ok credential) :
    (Web.auth (obliged python jwtExpiry) (some store) (basicStep ref)).Yields
      (attached python ref credential) := by
  have same : (basicStep ref).get "credential" = ref := rfl
  have resolved : Web.resolve (obliged python jwtExpiry) (some store) (basicStep ref) =
      .ok credential := by
    simp only [Web.resolve, same, truthy, Bool.not_true, Bool.false_eq_true, if_false]
    exact found
  have realm : Web.realm (obliged python jwtExpiry) (basicStep ref) = ref.text python := by
    have unnamed : (basicStep ref).get "realm" = .null := rfl
    have empty : Json.null.truthy = false := rfl
    simp [Web.realm, Json.orElse, same, unnamed, empty, truthy, obliged]
  have mode : Web.mode (obliged python jwtExpiry) (basicStep ref) = "basic" := rfl
  simp only [Web.auth, mode, realm, resolved]
  rw [if_neg (by decide)]
  apply Procedure.Yields.bind (Procedure.Yields.lift (.ok credential))
  rw [if_pos trivial]
  unfold Web.basic attached
  cases credential.header with
  | error failure => exact Procedure.Yields.bind_error (Procedure.Yields.lift _)
  | ok header =>
    have attached : (setHeaders (obliged python jwtExpiry) [header]).Yields (.ok ()) :=
      Procedure.Yields.bind (fun _ => rfl : (read _).Yields (.ok (.ok (), true))) fun _ => rfl
    apply Procedure.Yields.bind (Procedure.Yields.lift (.ok header))
    apply Procedure.Yields.bind attached
    exact Procedure.Yields.bind (yields_progress _ _ _) fun _ => rfl

/-- What a task with one `basic` step comes to. -/
def concluded (setting : TaskSetting World) (ref : Json) (credential : Auth.Credential) :
    Except StepError Json :=
  match attached setting.python ref credential with
  | .ok found => .ok (report ⟨"sess-1", 1⟩ 1 (Fields.update [] found))
  | .error failure => .error (Web.classify setting (.str "auth") 1 failure)

/-- The round of a `basic` step ends as its header does. -/
theorem yields_turn (truthy : ref.truthy = true)
    (found : store.resolve python (ref.text python) = .ok credential) :
    (Web.turn (obliged python jwtExpiry) (some store) 1 1 [] (.obj (basicStep ref))).Yields
      (match attached python ref credential with
      | .ok found => .ok (Fields.update [] found)
      | .error failure =>
        .error (Web.classify (obliged python jwtExpiry) (.str "auth") 1 failure)) := by
  have inTime : (1 : Float).le 0 = false := by decide +kernel
  have budget : WebTarget.budgetMs 1 (basicStep ref) = .ok 1000 := by
    have rounded : intOfFloat (pyMin 15 1 * 1000) = .ok 1000 := by decide +kernel
    exact rounded
  have auth : (Web.auth (obliged python jwtExpiry) (some store) (basicStep ref)).Yields
      (attached python ref credential) := yields_auth truthy found
  have remaining : (read (obliged python jwtExpiry).outside.remaining).Yields (.ok (1 : Float)) :=
    fun _ => rfl
  apply Procedure.Yields.bind remaining
  rw [inTime, if_neg Bool.false_ne_true]
  apply Procedure.Yields.bind (Procedure.Yields.lift (.ok (basicStep ref)))
  rw [budget]
  apply Procedure.Yields.bind (Procedure.Yields.lift (.ok 1000))
  apply Procedure.Yields.bind (yields_progress _ _ _)
  cases ended : attached python ref credential with
  | ok found =>
    rw [ended] at auth
    have attempt : (Web.attempt (obliged python jwtExpiry) (some store) (basicStep ref)
        (.str "auth") 1 1000).Yields (.ok (some found)) :=
      Procedure.Yields.bind auth (Procedure.Yields.pure _)
    have ran : (Web.runStep (obliged python jwtExpiry) (some store) (basicStep ref) (.str "auth") 1
        1000).Yields (.ok found) :=
      Procedure.Yields.bind (Procedure.Yields.tryCatch attempt) (Procedure.Yields.pure _)
    exact Procedure.Yields.bind ran (Procedure.Yields.pure _)
  | error failure =>
    rw [ended] at auth
    have attempt : (Web.attempt (obliged python jwtExpiry) (some store) (basicStep ref)
        (.str "auth") 1 1000).Yields (.error failure) :=
      Procedure.Yields.bind_error auth
    have ran : (Web.runStep (obliged python jwtExpiry) (some store) (basicStep ref) (.str "auth") 1
        1000).Yields
          (.error (Web.classify (obliged python jwtExpiry) (.str "auth") 1 failure)) :=
      Procedure.Yields.bind_error
        (Procedure.Yields.tryCatch_error attempt fun _ => rfl)
    exact Procedure.Yields.bind_error ran

/-- A task with one `basic` step ends as its header does. -/
theorem yields_execute (truthy : ref.truthy = true)
    (found : store.resolve python (ref.text python) = .ok credential) :
    (Web.execute (obliged python jwtExpiry) (some store) [.obj (basicStep ref)]).Yields
      (concluded (obliged python jwtExpiry) ref credential) := by
  have turn := @yields_turn _ jwtExpiry _ _ _ truthy found
  apply Procedure.Yields.bind (yields_acquire _)
  unfold concluded
  cases ended : attached (obliged python jwtExpiry).python ref credential with
  | ok found =>
    have ended : attached python ref credential = .ok found := ended
    rw [ended] at turn
    exact Procedure.Yields.bind (Procedure.Yields.bind turn (Procedure.Yields.pure _))
      (Procedure.Yields.pure _)
  | error failure =>
    have ended : attached python ref credential = .error failure := ended
    rw [ended] at turn
    exact Procedure.Yields.bind_error (Procedure.Yields.bind_error turn)

/-- What a task with one `basic` step comes to shows the complaint. -/
theorem complaint_of_concluded {setting : TaskSetting World} {credential' : Auth.Credential}
    (equal : concluded setting ref credential = concluded setting ref credential') :
    credential.complaint = credential'.complaint := by
  have headed := credential.header_cases
  have headed' := credential'.header_cases
  unfold concluded attached at equal
  generalize credential.header = header at headed equal
  generalize credential'.header = header' at headed' equal
  cases headed with
  | made found quiet =>
    cases headed' with
    | made found' quiet' => rw [quiet, quiet']
    | refused reason' complains' => cases equal
    | unfit message' quiet' => rw [quiet, quiet']
  | refused reason complains =>
    cases headed' with
    | made found' quiet' => cases equal
    | refused reason' complains' =>
      have words : toString reason = toString reason' := by
        simpa [Except.map, Web.classify] using equal
      rw [complains, complains']
      exact congrArg some words
    | unfit message' quiet' => cases equal
  | unfit message quiet =>
    cases headed' with
    | made found' quiet' => rw [quiet, quiet']
    | refused reason' complains' => cases equal
    | unfit message' quiet' => rw [quiet, quiet']

variable {named : String → Prop}

/-- **Two stores that differ in the secrets only lead to the same events and the same ends**, for
every task whose `basic` steps name references of a set, exactly when the texts that the `basic`
headers of these references are made of are encoded, or refused with the same words. -/
theorem unpublished_iff (alike : store.Alike python jwtExpiry store') :
    Unpublished python jwtExpiry store store' named ↔ store.Encode python named store' := by
  constructor
  · intro unpublished ref truthy isNamed credential credential' found found'
    have names : Web.Names python named [.obj (basicStep ref)] := by
      intro fields member _ _
      obtain rfl : fields = basicStep ref := by simpa using member
      exact isNamed
    have same := (unpublished (obliged python jwtExpiry) (fun _ _ => True) rfl rfl blind_obliging
      [.obj (basicStep ref)] { world := () } trivial).2 names
    have ends := congrArg Prod.fst same
    have first := @yields_execute _ jwtExpiry _ _ _ truthy found { world := () }
    have second := @yields_execute _ jwtExpiry _ _ _ truthy found' { world := () }
    apply complaint_of_concluded
    calc concluded (obliged python jwtExpiry) ref credential
        = _ := first.symm
      _ = _ := ends
      _ = concluded (obliged python jwtExpiry) ref credential' := second
  · intro encode World setting same isPython isExpiry blind steps scene world
    subst isPython
    subst isExpiry
    refine ⟨observed_eq (Android.twin_execute blind alike steps) world, fun names => ?_⟩
    exact observed_eq (Web.twin_execute blind alike encode names) world

/-- A store with one `basic` credential. -/
def apiStore (secret : PyText) : Auth.CredentialStore where
  environ := fun _ => .ok none
  fileCreds := fun ref =>
    if ref = "api" then
      some { ref := "api", kind := "basic", username := some (PyText.ofString "bot")
             secret := some secret }
    else none

/-- `jwt_expiry` of a token that is no JWT. -/
def opaqueToken (_ : PyText) : Except Raised (Option Float) := .error (.auth "not a JWT")

/-- Its one credential is found. -/
theorem apiStore_resolve (python : Python) (secret : PyText) :
    (apiStore secret).resolve python "api" = .ok { ref := "api", kind := "basic"
                                                   username := some (PyText.ofString "bot")
                                                   secret := some secret } := by
  simp [apiStore, Auth.CredentialStore.resolve, escaping, bind, Except.bind]

/-- Two of these stores differ in the secret only. -/
theorem apiStore_alike (python : Python) (secret secret' : PyText) :
    (apiStore secret).Alike python opaqueToken (apiStore secret') := by
  intro ref
  by_cases known : ref = "api"
  · subst known
    rw [apiStore_resolve, apiStore_resolve]
    exact .ok ⟨rfl, rfl, rfl, .some rfl⟩
  · have unknown (secret : PyText) : ∃ raised, (apiStore secret).resolve python ref =
        .error raised ∧ ∀ other, (apiStore other).resolve python ref = .error raised := by
      simp [apiStore, Auth.CredentialStore.resolve, escaping, bind, Except.bind, known]
    obtain ⟨raised, one, all⟩ := unknown secret
    rw [one, all]
    exact .error raised

/-- A secret whose last byte is not UTF-8, as the environment gives it. -/
def bytesSecret : PyText := PyText.ofString "s3" ++ [CodePoint.ofNat 0xDCFF]

/-- What becomes of a task that attaches the `basic` header of a secret. -/
def apiTask (secret : PyText) : Except StepError Json × List ProgressEvent :=
  observed (Web.execute (obliged default opaqueToken) (some (apiStore secret))
    [.obj (basicStep (.str "api"))]) { world := () }

/-- The task ends as the header of the credential does. -/
theorem apiTask_ends (secret : PyText) :
    (apiTask secret).1 = concluded (obliged default opaqueToken) (.str "api")
      { ref := "api", kind := "basic", username := some (PyText.ofString "bot")
        secret := some secret } := by
  have ended := @yields_execute default opaqueToken (apiStore secret) (.str "api") _ rfl
    (apiStore_resolve default secret)
  exact ended _

/-- **A part of a secret is published**: the error of the task shows the byte that is not UTF-8 and
where it stands, and with another secret the task succeeds. -/
theorem secret_byte_published :
    (apiStore bytesSecret).Alike default opaqueToken (apiStore (PyText.ofString "s3cret")) ∧
    (apiTask bytesSecret).1 = .error (.known (.retryable
      ("web step 1 (auth) failed: 'utf-8' codec can't encode character '\\udcff' in position 6: " ++
        "surrogates not allowed") false)) ∧
    (apiTask (PyText.ofString "s3cret")).1.isOk = true ∧
    ¬Unpublished default opaqueToken (apiStore bytesSecret) (apiStore (PyText.ofString "s3cret"))
      fun _ => True := by
  have refused : (apiTask bytesSecret).1 = .error (.known (.retryable
      ("web step 1 (auth) failed: 'utf-8' codec can't encode character '\\udcff' in position 6: " ++
        "surrogates not allowed") false)) := by
    rw [apiTask_ends]
    rfl
  have succeeded : (apiTask (PyText.ofString "s3cret")).1.isOk = true := by
    rw [apiTask_ends]
    decide +kernel
  refine ⟨apiStore_alike _ _ _, refused, succeeded, fun unpublished => ?_⟩
  have same := (unpublished (obliged default opaqueToken) (fun _ _ => True) rfl rfl blind_obliging
    [.obj (basicStep (.str "api"))] { world := () } trivial).2 fun _ _ _ _ => trivial
  have ends : (apiTask bytesSecret).1 = (apiTask (PyText.ofString "s3cret")).1 :=
    congrArg Prod.fst same
  rw [refused] at ends
  rw [← ends] at succeeded
  cases succeeded

/-- The equivalence for two secrets of ASCII letters. -/
theorem unpublished_iff_ascii :
    Unpublished default opaqueToken (apiStore (PyText.ofString "s3cret"))
      (apiStore (PyText.ofString "hunter2")) (fun ref => ref = "api") ∧
    (Unpublished default opaqueToken (apiStore (PyText.ofString "s3cret"))
        (apiStore (PyText.ofString "hunter2")) (fun ref => ref = "api") ↔
      (apiStore (PyText.ofString "s3cret")).Encode default (fun ref => ref = "api")
        (apiStore (PyText.ofString "hunter2"))) := by
  have equivalent := @unpublished_iff default opaqueToken _ _ (fun ref => ref = "api")
    (apiStore_alike default (PyText.ofString "s3cret") (PyText.ofString "hunter2"))
  refine ⟨equivalent.mpr ?_, equivalent⟩
  intro ref _ named credential credential' found found'
  rw [named, apiStore_resolve] at found found'
  cases found
  cases found'
  decide +kernel

end

end Live

end DeviceOrchestrator
