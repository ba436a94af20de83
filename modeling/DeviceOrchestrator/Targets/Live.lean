import DeviceOrchestrator.Core.Auth
import DeviceOrchestrator.Lib.Twin
import DeviceOrchestrator.Targets.Web

/-!
# The targets with what they read and change

`Targets.Web` and `Targets.Android` say how `execute` ends, given the answers of everything around
it. Here the same code runs against a `Scene`: the progress events it publishes, the token cache and
the cookie jar that tasks share, and the headers in force on the browser session. Everything else
that it calls, the driver and the clocks, is `Outside`, with a state of its own. A cancellation is
one more exception of an awaited call. Neither `refresh` suspends, so nobody ever holds the lock of
a realm while another task runs, and `TokenCache.get` is one step.
-/
namespace DeviceOrchestrator

/-- What a task says of itself in every event. -/
structure TaskContext where
  /-- `task_id`. -/
  taskId : String
  /-- `correlation_id`. -/
  correlationId : String
  /-- `device_id`. -/
  deviceId : Option DeviceId
  /-- `attempt`. -/
  attempt : Nat

/-- A `task.progress` event. -/
structure ProgressEvent where
  /-- Whose event it is. -/
  context : TaskContext
  /-- `phase`. -/
  phase : String
  /-- `message`. -/
  message : String
  /-- `data`. -/
  data : Fields
  /-- `ts`. -/
  ts : Float

/-- What is called, each with the state it leaves. `ensure` also says whether it opened the session,
and `set_headers` whether the headers took effect, should it raise. -/
structure Outside (World : Type) where
  /-- `time.time()`. -/
  time : World → Float × World
  /-- `ctx.remaining_s()`. -/
  remaining : World → Float × World
  /-- `asyncio.sleep`. -/
  sleep : Float → World → Except Raised Unit × World
  /-- `SessionManager.ensure`. -/
  ensure : World → Except Raised (SessionHandle × Bool) × World
  /-- `driver.goto`. -/
  goto : String → Int → World → Except Raised Unit × World
  /-- `driver.click` of the browser. -/
  click : String → Int → World → Except Raised Unit × World
  /-- `driver.fill`. -/
  fill : String → String → Int → World → Except Raised Unit × World
  /-- `driver.text_of` of the browser. -/
  textOf : String → Int → World → Except Raised String × World
  /-- `driver.set_headers`. -/
  setHeaders : List (String × PyText) → World → (Except Raised Unit × Bool) × World
  /-- `driver.cookies`. -/
  cookies : World → Except Raised (List Fields) × World
  /-- `driver.set_cookies`. -/
  setCookies : List Fields → World → Except Raised Unit × World
  /-- `driver.read_storage`. -/
  readStorage : String → World → Except Raised (Option PyText) × World
  /-- `driver.find`. -/
  find : String → String → World → Except Raised String × World
  /-- `driver.click` of the phone. -/
  tap : String → World → Except Raised Unit × World
  /-- `driver.send_keys`. -/
  sendKeys : String → PyText → World → Except Raised Unit × World
  /-- `driver.text_of` of the phone. -/
  elementText : String → World → Except Raised String × World
  /-- `driver.source`. -/
  source : World → Except Raised String × World

/-- What the code of one task is built with, except the credentials. -/
structure TaskSetting (World : Type) where
  /-- The interpreter. -/
  python : Python
  /-- What is called. -/
  outside : Outside World
  /-- The task. -/
  context : TaskContext
  /-- `_skew_s` of the token cache. -/
  skewS : Float := 60
  /-- `jwt_expiry`. -/
  jwtExpiry : PyText → Except Raised (Option Float)

/-- What a task reads and changes. -/
structure Scene (World : Type) where
  /-- The state of what is called. -/
  world : World
  /-- The events handed to the sink. -/
  published : List ProgressEvent := []
  /-- `TokenCache._tokens`. -/
  tokens : String → Option Auth.CachedToken := fun _ => none
  /-- `CookieJar._state`. -/
  jar : String → Option (List Fields) := fun _ => none
  /-- The headers in force on the browser session. -/
  headers : String → Option PyText := fun _ => none

/-- Code of a task. -/
abbrev Act (World Value : Type) := Procedure (Scene World) StepError Value

namespace Live

variable {World Value : Type}

/-- A result that may be an exception that the targets know. -/
def raising (result : Except Raised Value) : Act World Value :=
  .lift (result.mapError StepError.known)

/-- A call that cannot raise. -/
def read (op : World → Value × World) : Act World Value := .act fun scene =>
  let (answer, world) := op scene.world
  (.ok answer, { scene with world := world })

/-- A call that can raise. -/
def call (op : World → Except Raised Value × World) : Act World Value := do
  raising (← read op)

/-- `self._tokens.get(realm)`. -/
def cachedToken (realm : String) : Act World (Option Auth.CachedToken) :=
  .act fun scene => (.ok (scene.tokens realm), scene)

/-- `self._tokens[realm] = cached`. -/
def storeToken (realm : String) (cached : Auth.CachedToken) : Act World Unit := .act fun scene =>
  (.ok (), { scene with tokens := Function.update scene.tokens realm (some cached) })

/-- `self._state.get(realm)` of the cookie jar. -/
def storedCookies (realm : String) : Act World (Option (List Fields)) :=
  .act fun scene => (.ok (scene.jar realm), scene)

/-- `CookieJar.save`. -/
def saveCookies (realm : String) (cookies : List Fields) : Act World Unit := .act fun scene =>
  (.ok (), { scene with jar := Function.update scene.jar realm (some cookies) })

/-- Headers that took effect stay in force until they are replaced. -/
def keepHeaders (applied : Bool) (headers : List (String × PyText)) : Act World Unit :=
  .act fun scene => (.ok (), { scene with
    headers := fun name =>
      if applied then (headers.lookup name).orElse fun _ => scene.headers name
      else scene.headers name })

/-- A session that was just opened has no headers. -/
def clearHeaders (opened : Bool) : Act World Unit := .act fun scene =>
  (.ok (), { scene with headers := fun name => if opened then none else scene.headers name })

section
variable (setting : TaskSetting World)

/-- `ctx.progress`. -/
def progress (phase message : String) (data : Fields := []) : Act World Unit := do
  let ts ← read setting.outside.time
  .act fun scene =>
    (.ok (), { scene with
      published := scene.published ++ [⟨setting.context, phase, message, data, ts⟩] })

/-- A fresh entry of the token cache. -/
def freshToken (realm : String) : Act World (Option PyText) := do
  match ← cachedToken realm with
  | none => pure none
  | some cached =>
    match cached.expiresAt with
    | none => pure (some cached.token)
    | some expiresAt =>
      let now ← read setting.outside.time
      pure (if Auth.stale expiresAt setting.skewS now then none else some cached.token)

/-- `jwt_expiry`, with `None` for a token that is no JWT. -/
def expiry (raw : PyText) : Act World (Option Float) :=
  match setting.jwtExpiry raw with
  | .error (.auth _) => pure none
  | result => raising result

/-- `round(expires_at - time.time()) if expires_at else None`. -/
def ttl (expiresAt : Option Float) : Act World (Option Int) :=
  match expiresAt with
  | none => pure none
  | some expiresAt =>
    if expiresAt == 0 then pure none
    else do
      let now ← read setting.outside.time
      some <$> raising (escaping (Auth.pyRound (expiresAt - now)))

/-- The end of `TokenCache.get`: what `refresh` returned is stored. -/
def refreshToken (realm : String) (refresh : PyText) : Act World PyText := do
  let expiresAt ← expiry setting refresh
  storeToken realm ⟨refresh, expiresAt⟩
  -- The line of the log rounds the time that is left.
  let _ ← ttl setting expiresAt
  pure refresh

/-- `TokenCache.get`, with what its `refresh` returns. -/
def getToken (realm : String) (refresh : PyText) : Act World PyText := do
  match ← freshToken setting realm with
  | some token => pure token
  | none =>
    -- The entry is read again inside the lock, by the clock of that moment.
    match ← freshToken setting realm with
    | some token => pure token
    | none => refreshToken setting realm refresh

/-- `_ttl_of`. -/
def ttlOf (raw : PyText) : Act World (Option Int) := do
  ttl setting (← expiry setting raw)

/-- `CookieJar.live`. -/
def liveCookies (realm : String) : Act World Bool := do
  let now ← read setting.outside.time
  match ← storedCookies realm with
  | none => pure false
  | some cookies => raising (escaping (Auth.liveCookies now cookies))

/-- `driver.set_headers`. -/
def setHeaders (headers : List (String × PyText)) : Act World Unit := do
  let (answer, applied) ← read (setting.outside.setHeaders headers)
  keepHeaders (answer.isOk || applied) headers
  raising answer

/-- `execute`, up to the answer of `ensure`. -/
def acquiring (kind : String) : Act World (SessionHandle × Bool) := do
  progress setting "session" s!"acquiring {kind} session"
  call setting.outside.ensure

/-- What `execute` does before the first step. -/
def acquire (kind : String) : Act World SessionHandle := do
  let (handle, opened) ← acquiring setting kind
  clearHeaders opened
  progress setting "session" "session ready"
    [("session_id", .str handle.id), ("generation", .int handle.generation)]
  pure handle

/-- The event of a step. -/
def announce (total index : Nat) (op : Json) : Act World Unit :=
  let shown := op.text setting.python
  progress setting "step" s!"{index}/{total} {shown}" [("step", .int index), ("op", op)]

/-- What `execute` returns. -/
def report (handle : SessionHandle) (total : Nat) (captured : Fields) : Json :=
  .obj [("steps", .int total), ("session_generation", .int handle.generation),
    ("captured", .obj captured)]

/-- `asyncio.sleep` of a `wait` step. -/
def wait (step : Fields) : Act World Unit := do
  let seconds ← raising (escaping (step.getD "seconds" (.float 1)).toFloat)
  raising (escaping (sleep setting.python seconds))
  call (setting.outside.sleep seconds)

end

end Live

namespace Live.Web

variable {World : Type} (setting : TaskSetting World) (credentials : Option Auth.CredentialStore)

/-- `_resolve`. -/
def resolve (step : Fields) : Except Raised Auth.Credential :=
  let ref := step.get "credential"
  if !ref.truthy then .error (.fatal "auth step needs a credential reference")
  else match credentials with
    | none => .error (.fatal "this deployment has no credential store configured")
    | some store => store.resolve setting.python (ref.text setting.python)

/-- The mode of an `auth` step. -/
def mode (step : Fields) : String := (step.getD "mode" (.str "cookie")).text setting.python

/-- The realm of an `auth` step. -/
def realm (step : Fields) : String :=
  (((step.get "realm").orElse (step.get "credential")).orElse (.str "default")).text
    setting.python

/-- The `basic` mode of `_auth`. -/
def basic (realm : String) (credential : Auth.Credential) : Act World Fields := do
  let (name, value) ← Procedure.lift credential.header
  setHeaders setting [(name, value)]
  progress setting "auth" "basic auth attached" [("realm", .str realm)]
  pure (WebTarget.authReport "basic" realm false)

/-- The `bearer` mode of `_auth`. -/
def bearer (realm : String) (credential : Auth.Credential) : Act World Fields :=
  match credential.secret with
  | none =>
    let ref := credential.ref
    throw (.known (.auth s!"credential {ref} has no token"))
  | some secret => do
    let token ← getToken setting realm secret
    setHeaders setting [("Authorization", PyText.ofString "Bearer " ++ token)]
    progress setting "auth" "bearer token attached" [("realm", .str realm)]
    pure (WebTarget.authReport "bearer" realm true)

/-- The `cookie` mode of `_auth`. -/
def cookie (realm : String) : Act World Fields := do
  if ← liveCookies setting realm then
    let cookies ← storedCookies realm
    call (setting.outside.setCookies (cookies.getD []))
    progress setting "auth" "restored session" [("realm", .str realm), ("reused", .bool true)]
    pure (WebTarget.authReport "cookie" realm true)
  else
    progress setting "auth" "no stored session" [("realm", .str realm), ("reused", .bool false)]
    pure (WebTarget.authReport "cookie" realm false)

/-- `_auth`. -/
def auth (step : Fields) : Act World Fields :=
  let mode := mode setting step
  let realm := realm setting step
  if mode = "cookie" then cookie setting realm
  else do
    let credential ← raising (resolve setting credentials step)
    if mode = "basic" then basic setting realm credential
    else if mode = "bearer" then bearer setting realm credential
    else
      let shown := setting.python.showText mode
      throw (.known (.fatal s!"unknown auth mode: {shown}"))

/-- What `_capture_session` makes of the stored token. -/
def captureToken (realm : String) (step : Fields) (captured : Fields) : Act World Fields := do
  let key := step.get "token_key"
  if key.truthy then
    let stored ← call (setting.outside.readStorage (key.text setting.python))
    match stored.filter (· ≠ []) with
    | none => pure captured
    | some raw =>
      let _ ← getToken setting realm raw
      let expires ← ttlOf setting raw
      pure (captured ++ [("token_expires_in_s", expires.elim .null .int)])
  else pure captured

/-- `_capture_session`. -/
def captureSession (step : Fields) : Act World Fields := do
  let realm := (step.getD "realm" (.str "default")).text setting.python
  let cookies ← call setting.outside.cookies
  saveCookies realm cookies
  let captured ← captureToken setting realm step [("cookies", .int cookies.length)]
  progress setting "auth" "session captured"
    [("realm", .str realm), ("cookies", .int cookies.length)]
  pure [("session", .obj captured)]

/-- The `try` of `_run_step`; an op that it does not know falls through. -/
def attempt (step : Fields) (op : Json) (index : Nat) (budgetMs : Int) :
    Act World (Option Fields) :=
  let python := setting.python
  let field : String → Act World String := fun key => raising (WebTarget.field python step key)
  if op.isText "auth" then some <$> auth setting credentials step
  else if op.isText "capture_session" then some <$> captureSession setting step
  else if op.isText "goto" then do
    call (setting.outside.goto (← field "url") budgetMs)
    pure (some [])
  else if op.isText "click" then do
    call (setting.outside.click (← field "selector") budgetMs)
    pure (some [])
  else if op.isText "fill" then do
    call (setting.outside.fill (← field "selector")
      ((step.getD "text" (.str "")).text python) budgetMs)
    pure (some [])
  else if op.isText "read" then do
    let text ← call (setting.outside.textOf (← field "selector") budgetMs)
    pure (some [((step.getD "into" (.str s!"step{index}")).text python, .str text)])
  else if op.isText "wait" then do
    wait setting step
    pure (some [])
  else pure none

/-- The `except` clauses of `_run_step`. -/
def classify (op : Json) (index : Nat) : StepError → StepError
  | .known raised => .known (WebTarget.classify setting.python op index raised)
  | .encode reason =>
    let shown := op.text setting.python
    .known (.retryable s!"web step {index} ({shown}) failed: {reason}" false)

/-- `_run_step`. -/
def runStep (step : Fields) (op : Json) (index : Nat) (budgetMs : Int) : Act World Fields := do
  let found ← tryCatch (attempt setting credentials step op index budgetMs) fun failure =>
    throw (classify setting op index failure)
  match found with
  | some captured => pure captured
  | none =>
    let shown := op.repr setting.python
    throw (.known (.fatal s!"unknown web op: {shown}"))

/-- One round of the loop of `execute`. -/
def turn (total index : Nat) (captured : Fields) (step : Json) : Act World Fields := do
  let remaining ← read setting.outside.remaining
  if remaining.le 0 then throw (.known (.retryable "ran out of time mid-run" false))
  else
    let fields ← raising (fieldsOf step)
    let budgetMs ← raising (escaping (WebTarget.budgetMs remaining fields))
    let op := fields.get "op"
    announce setting total index op
    let found ← runStep setting credentials fields op index budgetMs
    pure (captured.update found)

/-- `execute`. -/
def execute (steps : List Json) : Act World Json := do
  let handle ← acquire setting "browser"
  let captured ← Procedure.script (turn setting credentials steps.length) 1 [] steps
  pure (report handle steps.length captured)

end Live.Web

namespace Live.Android

variable {World : Type} (setting : TaskSetting World) (credentials : Option Auth.CredentialStore)

/-- `_reveal`. -/
def reveal (step : Fields) : Except Raised PyText :=
  let ref := step.get "credential"
  if !ref.truthy then .error (.fatal "type_secret needs a credential reference")
  else match credentials with
    | none => .error (.fatal "this deployment has no credential store configured")
    | some store =>
      match store.resolve setting.python (ref.text setting.python) with
      | .error (.auth message) => .error (.fatal message)
      | .error other => .error other
      | .ok credential =>
        let shown := ref.text setting.python
        if (step.getD "field" (.str "password")).text setting.python = "username" then
          credential.username.elim (.error (.fatal s!"credential {shown} has no username")) .ok
        else credential.secret.elim (.error (.fatal s!"credential {shown} has no secret")) .ok

/-- The element of a step. -/
def element (step : Fields) : Act World String := do
  let (strategy, value) ← raising (AndroidTarget.locator setting.python step)
  call (setting.outside.find strategy value)

/-- `_run_step`. -/
def runStep (step : Fields) (op : Json) (index : Nat) : Act World Fields :=
  let python := setting.python
  if op.isText "tap" then do
    call (setting.outside.tap (← element setting step))
    pure []
  else if op.isText "type" then do
    let element ← element setting step
    call (setting.outside.sendKeys element
      (PyText.ofString ((step.getD "text" (.str "")).text python)))
    pure []
  else if op.isText "type_secret" then do
    let element ← element setting step
    let secret ← raising (reveal setting credentials step)
    call (setting.outside.sendKeys element secret)
    pure []
  else if op.isText "read" then do
    let text ← call (setting.outside.elementText (← element setting step))
    pure [((step.getD "into" (.str s!"step{index}")).text python, .str text)]
  else if op.isText "wait" then do
    wait setting step
    pure []
  else if op.isText "dump" then do
    let source ← call setting.outside.source
    pure [((step.getD "into" (.str "source")).text python, .int source.length)]
  else
    let shown := op.repr python
    throw (.known (.fatal s!"unknown android op: {shown}"))

/-- One round of the loop of `execute`. -/
def turn (total index : Nat) (captured : Fields) (step : Json) : Act World Fields := do
  let remaining ← read setting.outside.remaining
  if remaining.le 0 then throw (.known (.retryable "ran out of time mid-run" false))
  else
    let fields ← raising (fieldsOf step)
    let op := fields.get "op"
    announce setting total index op
    let found ← runStep setting credentials fields op index
    pure (captured.update found)

/-- `execute`. -/
def execute (steps : List Json) : Act World Json := do
  let handle ← acquire setting "appium"
  let captured ← Procedure.script (turn setting credentials steps.length) 1 [] steps
  pure (report handle steps.length captured)

end Live.Android

/-- Everything around a task answers, for runs on fixed inputs. -/
def Live.obliging : Outside Unit where
  time := fun _ => (0, ())
  remaining := fun _ => (1, ())
  sleep := fun _ _ => (.ok (), ())
  ensure := fun _ => (.ok (⟨"sess-1", 1⟩, true), ())
  goto := fun _ _ _ => (.ok (), ())
  click := fun _ _ _ => (.ok (), ())
  fill := fun _ _ _ _ => (.ok (), ())
  textOf := fun _ _ _ => (.ok "", ())
  setHeaders := fun _ _ => ((.ok (), true), ())
  cookies := fun _ => (.ok [], ())
  setCookies := fun _ _ => (.ok (), ())
  readStorage := fun _ _ => (.ok none, ())
  find := fun _ _ _ => (.ok "el-1", ())
  tap := fun _ _ => (.ok (), ())
  sendKeys := fun _ _ _ => (.ok (), ())
  elementText := fun _ _ => (.ok "", ())
  source := fun _ => (.ok "", ())

end DeviceOrchestrator
