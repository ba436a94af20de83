import DeviceOrchestrator.Core.Target
import DeviceOrchestrator.Lib.Script

/-!
# The android target

`AndroidTarget.execute` opens a session and interprets each step with the driver of that session.
Nothing catches what a step raises, so everything that is not a `TaskError` reaches the scheduler
unclassified.
-/
namespace DeviceOrchestrator

/-- What the driver answers during one step, and the time that is left when it begins. A step
makes each of these calls at most once. -/
structure AndroidAnswers where
  /-- `ctx.remaining_s()`. -/
  remaining : Float
  /-- `driver.find`. -/
  find : String → String → Except Raised String
  /-- `driver.click`. -/
  click : String → Except Raised Unit
  /-- `driver.send_keys`. -/
  sendKeys : String → String → Except Raised Unit
  /-- `driver.text_of`. -/
  textOf : String → Except Raised String
  /-- `driver.source`. -/
  source : Except Raised String

/-- `AndroidTarget`. -/
structure AndroidTarget where
  /-- `_credentials`. -/
  credentials : Option CredentialStore := none

/-- `asyncio.sleep`, when the deadline does not cut it short. -/
def sleep (python : Python) (seconds : Float) : Except PyError Unit :=
  if python.sleepRefusesNan && seconds.isNaN then .error .valueError else .ok ()

namespace AndroidTarget

/-- `_locator`. -/
def locator (python : Python) (step : Fields) : Except Raised (String × String) :=
  if step.has "id" then .ok ("id", (step.get "id").text python)
  else if step.has "xpath" then .ok ("xpath", (step.get "xpath").text python)
  else if step.has "accessibility_id" then
    .ok ("accessibility id", (step.get "accessibility_id").text python)
  else
    let shown := (Json.obj step).text python
    .error (.fatal s!"step has no locator: {shown}")

/-- `_reveal`. -/
def reveal (python : Python) (target : AndroidTarget) (step : Fields) : Except Raised String :=
  let ref := step.get "credential"
  if !ref.truthy then .error (.fatal "type_secret needs a credential reference")
  else match target.credentials with
    | none => .error (.fatal "this deployment has no credential store configured")
    | some store =>
      match store.resolve python (ref.text python) with
      | .error (.auth message) => .error (.fatal message)
      | .error other => .error other
      | .ok credential =>
        let shown := ref.text python
        if (step.getD "field" (.str "password")).text python = "username" then
          credential.username.elim (.error (.fatal s!"credential {shown} has no username")) .ok
        else credential.secret.elim (.error (.fatal s!"credential {shown} has no secret")) .ok

/-- `_run_step`. -/
def runStep (python : Python) (target : AndroidTarget) (driver : AndroidAnswers) (step : Fields)
    (op : Json) (index : Nat) : Except Raised Fields :=
  if op.isText "tap" then do
    let (using_, value) ← locator python step
    let element ← driver.find using_ value
    driver.click element
    .ok []
  else if op.isText "type" then do
    let (using_, value) ← locator python step
    let element ← driver.find using_ value
    driver.sendKeys element ((step.getD "text" (.str "")).text python)
    .ok []
  else if op.isText "type_secret" then do
    let (using_, value) ← locator python step
    let element ← driver.find using_ value
    let secret ← target.reveal python step
    driver.sendKeys element secret
    .ok []
  else if op.isText "read" then do
    let (using_, value) ← locator python step
    let element ← driver.find using_ value
    let text ← driver.textOf element
    .ok [((step.getD "into" (.str s!"step{index}")).text python, .str text)]
  else if op.isText "wait" then do
    let seconds ← escaping (step.getD "seconds" (.float 1)).toFloat
    escaping (sleep python seconds)
    .ok []
  else if op.isText "dump" then do
    let source ← driver.source
    .ok [((step.getD "into" (.str "source")).text python, .int source.length)]
  else
    let shown := op.repr python
    .error (.fatal s!"unknown android op: {shown}")

/-- One round of the loop of `execute`. -/
def turn (python : Python) (target : AndroidTarget) (answers : Nat → AndroidAnswers) (index : Nat)
    (captured : Fields) (step : Json) : Except Raised Fields :=
  if (answers index).remaining.le 0 then .error (.retryable "ran out of time mid-run" false)
  else do
    let fields ← fieldsOf step
    let found ← target.runStep python (answers index) fields (fields.get "op") index
    .ok (captured.update found)

/-- `execute`, when the deadline does not cut it short. -/
def execute (python : Python) (target : AndroidTarget) (session : Except Raised SessionHandle)
    (answers : Nat → AndroidAnswers) (steps : List Json) : Except Raised Json := do
  let handle ← session
  let captured ← Script.run (target.turn python answers) 1 [] steps
  .ok (.obj [("steps", .int steps.length), ("session_generation", .int handle.generation),
    ("captured", .obj captured)])

end AndroidTarget

end DeviceOrchestrator
