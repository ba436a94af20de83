import Mathlib.Data.List.DropRight
import DeviceOrchestrator.Targets.Apk
import DeviceOrchestrator.Targets.Live

/-!
# The driver of a phone

`AppiumDriver` sends one HTTP request for each of its verbs. `_http` sorts what an exchange ends
in: a server that is out of reach and a 404 on a route of a session are `SessionGone`, which blames
the device, and any other status and a body that is no JSON are errors that do not. Whatever else the library
raises, for an answer that breaks off or is none, nobody catches, and nothing looks at the shape of
the JSON before `get` and `items` are called on it. Here the driver stands behind the calls of
`Outside`, and the exchanges are kept. The timeout of a request is left out.
-/
namespace DeviceOrchestrator

/-- The body of a request, before `json.dumps`. -/
inductive RequestBody
  /-- `None`. -/
  | absent
  /-- `{}`. -/
  | empty
  /-- `{"using": using, "value": value}`. -/
  | locator (using_ value : String)
  /-- `{"text": text, "value": list(text)}`. -/
  | keys (text : PyText)
  deriving DecidableEq

/-- A request to the server. -/
structure AppiumRequest where
  /-- `method`. -/
  method : String
  /-- `url`. -/
  url : String
  /-- `body`. -/
  body : RequestBody
  deriving DecidableEq

/-- What `urlopen` ends in; the bodies are decoded. -/
inductive AppiumReply
  /-- A response. -/
  | body (raw : String)
  /-- `HTTPError`. -/
  | status (code : Int) (raw : String)
  /-- `URLError`, `OSError` or `TimeoutError`, with its `str`. -/
  | unreachable (reason : String)
  /-- Another exception: of `http.client`, of encoding the url, or of reading an `HTTPError`. -/
  | broken (error : PyError)
  /-- The deadline of the task cut the await short. -/
  | late
  deriving DecidableEq

/-- A request and what became of it. -/
structure Exchange where
  /-- The request. -/
  request : AppiumRequest
  /-- What it ended in. -/
  reply : AppiumReply
  deriving DecidableEq

/-- The state of what is called, with the exchanges so far. -/
structure Wire (World : Type) where
  /-- The state. -/
  world : World
  /-- The exchanges, in order. -/
  exchanges : List Exchange := []

/-- A call that exchanges nothing. -/
def Wire.beside {World Value : Type} (op : World → Value × World) (wire : Wire World) :
    Value × Wire World :=
  let (value, world) := op wire.world
  (value, { wire with world := world })

/-- `text.rstrip("/")`. -/
def rstripSlash (text : String) : String := String.ofList (text.toList.rdropWhile (· = '/'))

/-- `text[:200]`. -/
def first200 (text : String) : String := String.ofList (text.toList.take 200)

/-- `first or second`, of texts. -/
def textOr (first second : String) : String := if first = "" then second else first

/-- How `json.loads` fails. -/
inductive LoadsError
  /-- `JSONDecodeError`. -/
  | decode
  /-- Another exception, for a text that is nested too deep or has too long a number. -/
  | other (error : PyError)

/-- The interpreter and the server. -/
structure Appium (World : Type) where
  /-- The interpreter. -/
  python : Python
  /-- `json.loads`. -/
  loads : String → Except LoadsError Json
  /-- What the server makes of a request. -/
  serve : AppiumRequest → World → AppiumReply × World

namespace Appium

variable {World : Type} (appium : Appium World)

/-- `_extract_error`. -/
def extractError (raw : String) : Except Raised String :=
  match appium.loads raw with
  | .error .decode => .ok ""
  | .error (.other error) => .error (.builtin error)
  | .ok payload => do
    let fields ← fieldsOf payload
    match fields.get "value" with
    | .obj value =>
      .ok (((Fields.get value "message").orElse
        ((Fields.get value "error").orElse (.str ""))).text appium.python)
    | value => .ok ((value.orElse (.str "")).text appium.python)

/-- `_http`, once the exchange has ended. -/
def http (url : String) : AppiumReply → Except Raised Json
  | .status code raw => do
    let detail ← appium.extractError raw
    if code = 404 ∧ contains "/session/" url = true then
      .error (.retryable (textOr detail "session not found") true)
    else
      let shown := textOr detail (first200 raw)
      .error (.retryable s!"appium {code}: {shown}" false)
  | .unreachable reason => .error (.retryable s!"appium unreachable: {reason}" true)
  | .broken error => .error (.builtin error)
  | .late => .error .timeout
  | .body raw =>
    if raw = "" then .ok (.obj [])
    else
      match appium.loads raw with
      | .ok value => .ok value
      | .error (.other error) => .error (.builtin error)
      | .error .decode =>
        let shown := first200 raw
        .error (.retryable s!"appium returned non-JSON: {shown}" false)

/-- What `find` makes of the payload. -/
def elementOf (using_ value : String) (payload : Json) : Except Raised String := do
  let fields ← fieldsOf payload
  let element ← fieldsOf ((fields.get "value").orElse (.obj []))
  match element.find? fun entry =>
      "element-".toList.isPrefixOf entry.1.toList || entry.1 = "ELEMENT" with
  | some (_, ref) => .ok (ref.text appium.python)
  | none => .error (.retryable s!"element not found: {using_}={value}" false)

/-- What `text_of` and `source` make of the payload. -/
def valueOf (payload : Json) : Except Raised String := do
  let fields ← fieldsOf payload
  .ok ((fields.getD "value" (.str "")).text appium.python)

end Appium

/-- `AppiumDriver`. -/
structure AppiumDriver where
  /-- `base_url`. -/
  baseUrl : String
  /-- `session_id`. -/
  sessionId : String

namespace AppiumDriver

/-- `AppiumDriver.__init__`. -/
def new (baseUrl sessionId : String) : AppiumDriver := ⟨rstripSlash baseUrl, sessionId⟩

/-- The url of a command. -/
def url (driver : AppiumDriver) (path : String) : String :=
  driver.baseUrl ++ "/session/" ++ driver.sessionId ++ path

variable {World Value : Type} (appium : Appium World) (driver : AppiumDriver)

/-- `command`, and what its caller makes of the payload. -/
def command (method path : String) (body : RequestBody) (make : Json → Except Raised Value)
    (wire : Wire World) : Except Raised Value × Wire World :=
  let request := ⟨method, driver.url path, body⟩
  let (reply, world) := appium.serve request wire.world
  (appium.http request.url reply >>= make,
    ⟨world, wire.exchanges ++ [⟨request, reply⟩]⟩)

/-- `find`. -/
def find (using_ value : String) : Wire World → Except Raised String × Wire World :=
  driver.command appium "POST" "/element" (.locator using_ value) (appium.elementOf using_ value)

/-- `click`. -/
def click (elementId : String) : Wire World → Except Raised Unit × Wire World :=
  driver.command appium "POST" s!"/element/{elementId}/click" .empty fun _ => .ok ()

/-- `send_keys`. -/
def sendKeys (elementId : String) (text : PyText) : Wire World → Except Raised Unit × Wire World :=
  driver.command appium "POST" s!"/element/{elementId}/value" (.keys text) fun _ => .ok ()

/-- `text_of`. -/
def textOf (elementId : String) : Wire World → Except Raised String × Wire World :=
  driver.command appium "GET" s!"/element/{elementId}/text" .absent appium.valueOf

/-- `source`. -/
def source : Wire World → Except Raised String × Wire World :=
  driver.command appium "GET" "/source" .absent appium.valueOf

/-- Everything around a task on a phone whose session this driver is. -/
def outside (around : Outside World) : Outside (Wire World) where
  time := Wire.beside around.time
  remaining := Wire.beside around.remaining
  sleep seconds := Wire.beside (around.sleep seconds)
  ensure := Wire.beside around.ensure
  goto url budgetMs := Wire.beside (around.goto url budgetMs)
  click selector budgetMs := Wire.beside (around.click selector budgetMs)
  fill selector text budgetMs := Wire.beside (around.fill selector text budgetMs)
  textOf selector budgetMs := Wire.beside (around.textOf selector budgetMs)
  setHeaders headers := Wire.beside (around.setHeaders headers)
  cookies := Wire.beside around.cookies
  setCookies cookies := Wire.beside (around.setCookies cookies)
  readStorage key := Wire.beside (around.readStorage key)
  find := driver.find appium
  tap := driver.click appium
  sendKeys := driver.sendKeys appium
  elementText := driver.textOf appium
  source := driver.source appium

/-- A task on that phone. -/
def setting (task : TaskSetting World) : TaskSetting (Wire World) where
  python := appium.python
  outside := driver.outside appium task.outside
  context := task.context
  skewS := task.skewS
  jwtExpiry := task.jwtExpiry

end AppiumDriver

end DeviceOrchestrator
