import DeviceOrchestrator.Targets.Android

/-!
# The web target

`WebTarget.execute` computes the budget of each step before it runs it, and `_run_step` classifies
whatever a step raises: a missing key and a credential error are fatal, errors that are already
classified pass, and everything else is retryable without blame. The budget is computed outside.
-/
namespace DeviceOrchestrator

/-- What the driver, the token cache and the cookie jar answer during one step, and the time that
is left when it begins. A step makes each of these calls at most once. -/
structure WebAnswers where
  /-- `ctx.remaining_s()`. -/
  remaining : Float
  /-- `driver.goto`. -/
  goto : String → Int → Except Raised Unit
  /-- `driver.click`. -/
  click : String → Int → Except Raised Unit
  /-- `driver.fill`. -/
  fill : String → String → Int → Except Raised Unit
  /-- `driver.text_of`. -/
  textOf : String → Int → Except Raised String
  /-- `driver.set_headers`. -/
  setHeaders : Fields → Except Raised Unit
  /-- `driver.cookies`. -/
  cookies : Except Raised (List Json)
  /-- `driver.set_cookies`. -/
  setCookies : List Json → Except Raised Unit
  /-- `driver.read_storage`. -/
  readStorage : String → Except Raised (Option String)
  /-- `CookieJar.live`. -/
  live : String → Except PyError Bool
  /-- `CookieJar.load`. -/
  load : String → List Json
  /-- `CookieJar.save`. -/
  save : String → List Json → Except PyError Unit
  /-- `TokenCache.get`, with the token that its refresh returns. -/
  token : String → String → Except PyError String
  /-- `_ttl_of`. -/
  ttlOf : String → Except PyError (Option Int)

/-- `WebTarget`. -/
structure WebTarget where
  /-- `_credentials`. -/
  credentials : Option CredentialStore := none
  /-- Base64 of the UTF-8 bytes of a text. -/
  base64 : String → String

/-- `Credential.header`. -/
def Credential.header (base64 : String → String) (credential : Credential) :
    Except Raised (String × String) :=
  let ref := credential.ref
  let kind := credential.kind
  if kind = "basic" then
    match credential.username, credential.secret with
    | some username, some secret =>
      .ok ("Authorization", "Basic " ++ base64 (username ++ ":" ++ secret))
    | _, _ => .error (.auth s!"credential {ref} is basic but incomplete")
  else if kind = "bearer" then
    match credential.secret with
    | some secret => .ok ("Authorization", "Bearer " ++ secret)
    | none => .error (.auth s!"credential {ref} is bearer but has no token")
  else .error (.auth s!"credential {ref} of kind {kind} has no header form")

/-- The first of two values that is true, else the second. -/
def Json.orElse (first second : Json) : Json := if first.truthy then first else second

namespace WebTarget

/-- `_resolve`. -/
def resolve (python : Python) (target : WebTarget) (step : Fields) : Except Raised Credential :=
  let ref := step.get "credential"
  if !ref.truthy then .error (.fatal "auth step needs a credential reference")
  else match target.credentials with
    | none => .error (.fatal "this deployment has no credential store configured")
    | some store => store.resolve python (ref.text python)

/-- What an `auth` step reports. -/
def authReport (mode realm : String) (reused : Bool) : Fields :=
  [("auth", .obj [("mode", .str mode), ("realm", .str realm), ("reused", .bool reused)])]

/-- `_auth`. -/
def auth (python : Python) (target : WebTarget) (driver : WebAnswers) (step : Fields) :
    Except Raised Fields :=
  let mode := (step.getD "mode" (.str "cookie")).text python
  let realm :=
    (((step.get "realm").orElse (step.get "credential")).orElse (.str "default")).text python
  if mode = "cookie" then do
    if ← escaping (driver.live realm) then
      driver.setCookies (driver.load realm)
      .ok (authReport mode realm true)
    else .ok (authReport mode realm false)
  else do
    let credential ← target.resolve python step
    if mode = "basic" then
      let (name, value) ← credential.header target.base64
      driver.setHeaders [(name, .str value)]
      .ok (authReport mode realm false)
    else if mode = "bearer" then
      match credential.secret with
      | none =>
        let ref := credential.ref
        .error (.auth s!"credential {ref} has no token")
      | some secret =>
        let token ← escaping (driver.token realm secret)
        driver.setHeaders [("Authorization", .str ("Bearer " ++ token))]
        .ok (authReport mode realm true)
    else
      let shown := python.showText mode
      .error (.fatal s!"unknown auth mode: {shown}")

/-- `_capture_session`. -/
def captureSession (python : Python) (driver : WebAnswers) (step : Fields) :
    Except Raised Fields := do
  let realm := (step.getD "realm" (.str "default")).text python
  let cookies ← driver.cookies
  escaping (driver.save realm cookies)
  let counted : Fields := [("cookies", .int cookies.length)]
  let storageKey := step.get "token_key"
  if storageKey.truthy then
    match (← driver.readStorage (storageKey.text python)).filter (· ≠ "") with
    | none => .ok [("session", .obj counted)]
    | some raw =>
      let _ ← escaping (driver.token realm raw)
      let expires ← escaping (driver.ttlOf raw)
      .ok [("session", .obj (counted ++ [("token_expires_in_s", expires.elim .null .int)]))]
  else .ok [("session", .obj counted)]

/-- `step[key]`. -/
def field (python : Python) (step : Fields) (key : String) : Except Raised String :=
  match step.lookup key with
  | none => .error (.missing key)
  | some value => .ok (value.text python)

/-- The `try` of `_run_step`; an op that it does not know falls through. -/
def attempt (python : Python) (target : WebTarget) (driver : WebAnswers) (step : Fields)
    (op : Json) (index : Nat) (budgetMs : Int) : Except Raised (Option Fields) :=
  if op.isText "auth" then some <$> target.auth python driver step
  else if op.isText "capture_session" then some <$> captureSession python driver step
  else if op.isText "goto" then do
    driver.goto (← field python step "url") budgetMs
    .ok (some [])
  else if op.isText "click" then do
    driver.click (← field python step "selector") budgetMs
    .ok (some [])
  else if op.isText "fill" then do
    driver.fill (← field python step "selector") ((step.getD "text" (.str "")).text python)
      budgetMs
    .ok (some [])
  else if op.isText "read" then do
    let text ← driver.textOf (← field python step "selector") budgetMs
    .ok (some [((step.getD "into" (.str s!"step{index}")).text python, .str text)])
  else if op.isText "wait" then do
    let seconds ← escaping (step.getD "seconds" (.float 1)).toFloat
    escaping (sleep python seconds)
    .ok (some [])
  else .ok none

/-- The `except` clauses of `_run_step`. -/
def classify (python : Python) (op : Json) (index : Nat) : Raised → Raised
  | .missing key =>
    let shown := python.showText key
    .fatal s!"web step {index} is missing {shown}"
  | .auth message =>
    let shown := op.text python
    .fatal s!"web step {index} ({shown}): {message}"
  | .fatal message => .fatal message
  | .retryable message blamesDevice => .retryable message blamesDevice
  | other =>
    let shown := op.text python
    let reason := other.text python
    .retryable s!"web step {index} ({shown}) failed: {reason}" false

/-- `_run_step`. -/
def runStep (python : Python) (target : WebTarget) (driver : WebAnswers) (step : Fields)
    (op : Json) (index : Nat) (budgetMs : Int) : Except Raised Fields :=
  match target.attempt python driver step op index budgetMs with
  | .error raised => .error (classify python op index raised)
  | .ok (some found) => .ok found
  | .ok none =>
    let shown := op.repr python
    .error (.fatal s!"unknown web op: {shown}")

/-- `budget_ms`: the smaller of the step's own budget and what the task has left. -/
def budgetMs (remaining : Float) (step : Fields) : Except PyError Int :=
  match (step.getD "timeout_s" (.float 15)).toFloat with
  | .error error => .error error
  | .ok own => intOfFloat (pyMin own remaining * 1000)

/-- One round of the loop of `execute`. -/
def turn (python : Python) (target : WebTarget) (answers : Nat → WebAnswers) (index : Nat)
    (captured : Fields) (step : Json) : Except Raised Fields :=
  if (answers index).remaining.le 0 then .error (.retryable "ran out of time mid-run" false)
  else do
    let fields ← fieldsOf step
    let budget ← escaping (budgetMs (answers index).remaining fields)
    let found ← target.runStep python (answers index) fields (fields.get "op") index budget
    .ok (captured.update found)

/-- `execute`, when the deadline does not cut it short. -/
def execute (python : Python) (target : WebTarget) (session : Except Raised SessionHandle)
    (answers : Nat → WebAnswers) (steps : List Json) : Except Raised Json := do
  let handle ← session
  let captured ← Script.run (target.turn python answers) 1 [] steps
  .ok (.obj [("steps", .int steps.length), ("session_generation", .int handle.generation),
    ("captured", .obj captured)])

end WebTarget

end DeviceOrchestrator
