import DeviceOrchestrator.Targets.Appium
import DeviceOrchestrator.Verif.Blame
import DeviceOrchestrator.Verif.Realms
import DeviceOrchestrator.Verif.Verdicts

/-!
# What convicts a phone

On an open session a task on a phone exchanges requests with the Appium server. `charges` says
which exchanges speak against the phone: the server is out of reach, the session is gone, the
deadline cut the await short, the library raised what nobody catches, or the JSON is not of the
shape that the caller takes for granted. An attempt that meets such an exchange ends there and
blames the phone (`Convicted`), and every other attempt that blames it has a step that blames even a
healthy one.
-/
namespace DeviceOrchestrator

/-- Every command goes to a route of its session. -/
theorem AppiumDriver.contains_url (driver : AppiumDriver) (path : String) :
    contains "/session/" (driver.url path) = true := by
  have split : driver.url path = driver.baseUrl ++ "/session/" ++ (driver.sessionId ++ path) := by
    simp [url, String.append_assoc]
  exact contains_iff.mpr ⟨_, _, split⟩

/-- An exception of a task that is evidence against the device. -/
def StepError.blames : StepError → Bool
  | .known raised => raised.blames
  | .encode _ => true

/-- A value is an object. -/
def Json.isObject : Json → Bool
  | .obj _ => true
  | _ => false

/-- The shape of the payload that the caller of a command takes for granted. -/
def RequestBody.expects : RequestBody → Json → Bool
  | .absent, payload => payload.isObject
  | .locator _ _, .obj fields => ((Fields.get fields "value").orElse (.obj [])).isObject
  | .locator _ _, _ => false
  | .empty, _ | .keys _, _ => true

namespace Appium

variable {World Value : Type} (appium : Appium World)

/-- Whether a text is JSON of another shape, or raises what is no `JSONDecodeError`. -/
def misshapen (shape : Json → Bool) (raw : String) : Bool :=
  match appium.loads raw with
  | .ok payload => !shape payload
  | .error .decode => false
  | .error (.other _) => true

/-- Whether an exchange speaks against the phone. -/
def charges (exchange : Exchange) : Bool :=
  match exchange.reply with
  | .late | .unreachable _ | .broken _ => true
  | .status code raw => code = 404 || appium.misshapen Json.isObject raw
  | .body raw => raw ≠ "" && appium.misshapen exchange.request.body.expects raw

/-- Only the shape of a body keeps its error from being read. -/
theorem extractError_blaming (raw : String) :
    blaming (appium.extractError raw) = appium.misshapen Json.isObject raw := by
  unfold extractError misshapen
  cases appium.loads raw with
  | error error => cases error <;> rfl
  | ok payload =>
    cases payload with
    | obj fields =>
      simp only [fieldsOf, Json.isObject, Bool.not_true, blaming_ok_bind]
      split <;> rfl
    | _ => rfl

/-- **What blames the phone in one exchange.** -/
theorem http_blaming (request : AppiumRequest) (reply : AppiumReply)
    (session : contains "/session/" request.url = true) {make : Json → Except Raised Value}
    (shaped : ∀ payload, blaming (make payload) = !request.body.expects payload) :
    blaming (appium.http request.url reply >>= make) = appium.charges ⟨request, reply⟩ := by
  cases reply with
  | body raw =>
    simp only [http, charges]
    by_cases blank : raw = ""
    · have calm : request.body.expects (.obj []) = true := by cases request.body <;> rfl
      simp [blank, shaped, calm]
    · rw [if_neg blank]
      rw [decide_eq_true blank, Bool.true_and, misshapen]
      cases appium.loads raw with
      | error error => cases error <;> rfl
      | ok payload => exact (blaming_ok_bind payload make).trans (shaped payload)
  | status code raw =>
    have extracted := appium.extractError_blaming raw
    simp only [http, charges]
    cases found : appium.extractError raw with
    | error raised =>
      rw [found, blaming_error] at extracted
      rw [← extracted]
      simp only [bind, Except.bind, blaming_error]
      have blames : raised.blames = true := by
        unfold extractError at found
        split at found
        · cases found
        · cases found
          rfl
        · rename_i payload _
          cases payload with
          | obj fields =>
            simp only [fieldsOf, bind, Except.bind] at found
            split at found <;> cases found
          | _ =>
            cases found
            rfl
      simp [blames]
    | ok detail =>
      rw [found, blaming_ok] at extracted
      rw [← extracted]
      by_cases gone : code = 404
      · simp [gone, session, bind, Except.bind, Raised.blames]
      · simp [gone, bind, Except.bind, Raised.blames]
  | unreachable reason => rfl
  | broken error => rfl
  | late => rfl

/-- What `find` takes for granted. -/
theorem elementOf_blaming (using_ value : String) (payload : Json) :
    blaming (appium.elementOf using_ value payload) =
      !(RequestBody.locator using_ value).expects payload := by
  unfold elementOf
  cases payload with
  | obj fields =>
    simp only [fieldsOf, RequestBody.expects, blaming_ok_bind]
    generalize (Fields.get fields "value").orElse (.obj []) = element
    cases element with
    | obj entries =>
      simp only [blaming_ok_bind, Json.isObject, Bool.not_true]
      split <;> rfl
    | _ => rfl
  | _ => rfl

/-- What `text_of` and `source` take for granted. -/
theorem valueOf_blaming (payload : Json) :
    blaming (appium.valueOf payload) = !RequestBody.absent.expects payload := by
  cases payload <;> rfl

end Appium

/-! ## An attempt and its exchanges -/

/-- What the environment cannot encode is raised as it is. -/
theorem Auth.CredentialStore.resolve_refused (python : Python) {store : Auth.CredentialStore}
    {ref : String} {error : PyError} (failed : store.environ (envKey python ref) = .error error) :
    store.resolve python ref = .error (.builtin error) := by
  simp only [Auth.CredentialStore.resolve, failed, escaping, bind, Except.bind]

/-- Any other reference resolves, or is refused by an `AuthError`. -/
theorem Auth.CredentialStore.resolves (python : Python) {store : Auth.CredentialStore}
    {ref : String} {raw : Option PyText} (asked : store.environ (envKey python ref) = .ok raw) :
    (∃ credential, store.resolve python ref = .ok credential) ∨
      ∃ message, store.resolve python ref = .error (.auth message) := by
  simp only [Auth.CredentialStore.resolve, asked, escaping, bind, Except.bind]
  split
  · split <;> exact .inl ⟨_, rfl⟩
  · split
    · exact .inl ⟨_, rfl⟩
    · exact .inr ⟨_, rfl⟩

/-- A step that blames even a phone whose server answers: one that is no object, a `wait` whose
seconds are no number, and a `type_secret` that cannot ask the environment for its credential. -/
def careless (python : Python) (credentials : Option Auth.CredentialStore) : Json → Bool
  | .obj fields =>
    let op := Fields.get fields "op"
    op.isText "wait" && !sleepable python (Fields.getD fields "seconds" (.float 1)) ||
      op.isText "type_secret" &&
        unaskable python (credentials.map Auth.CredentialStore.environ) fields
  | _ => true

namespace Appium

open Live Procedure

variable {World Value : Type} (appium : Appium World)

/-- No exchange so far speaks against the phone. -/
def Clean (scene : Scene (Wire World)) : Prop :=
  ∀ exchange ∈ scene.world.exchanges, appium.charges exchange = false

/-- The last exchange speaks against the phone, and none before it does. -/
def Convicted (scene : Scene (Wire World)) : Prop :=
  ∃ (earlier : List Exchange) (last : Exchange), scene.world.exchanges = earlier ++ [last] ∧
    (∀ exchange ∈ earlier, appium.charges exchange = false) ∧ appium.charges last = true

/-- An error blames the phone because it is convicted, or has an excuse to. -/
def Judged (excuse : StepError → Prop) (error : StepError) (scene : Scene (Wire World)) : Prop :=
  error.blames = true ∧ appium.Convicted scene ∨
    appium.Clean scene ∧ (error.blames = true → excuse error)

/-- Code that goes on only while no exchange speaks against the phone. -/
abbrev Fair (excuse : StepError → Prop) (act : Act (Wire World) Value) : Prop :=
  act.Ends appium.Clean (fun _ => appium.Clean) (appium.Judged excuse)

variable {appium : Appium World} {excuse : StepError → Prop}

/-- A value is fair. -/
theorem fair_pure (value : Value) : appium.Fair excuse (pure value) :=
  .pure fun _ clean => clean

/-- An error that blames nobody is fair. -/
theorem fair_throw {error : StepError} (spared : error.blames = true → excuse error) :
    appium.Fair excuse (throw error : Act (Wire World) Value) :=
  .throw fun _ clean => .inr ⟨clean, spared⟩

/-- So is a result that needs no state. -/
theorem fair_raising {result : Except Raised Value}
    (spared : blaming result = true → ∀ raised, result = .error raised →
      excuse (.known raised)) : appium.Fair excuse (raising result : Act (Wire World) Value) := by
  refine .lift (fun _ _ _ clean => clean) fun error failed state clean => .inr ⟨clean, ?_⟩
  cases result with
  | ok value => cases failed
  | error raised =>
    cases failed
    exact fun blames => spared blames raised rfl

/-- A call beside the wire exchanges nothing. -/
theorem fair_read (op : World → Value × World) :
    appium.Fair excuse (Live.read (Wire.beside op)) :=
  fun _ clean => clean

/-- Such a call may raise. -/
theorem fair_call {op : World → Except Raised Value × World}
    (spared : ∀ world raised, (op world).1 = .error raised → excuse (.known raised)) :
    appium.Fair excuse (call (Wire.beside op)) := by
  intro scene clean
  have reason := spared scene.world.world
  simp only [start_call, Wire.beside]
  generalize op scene.world.world = ended at reason ⊢
  obtain ⟨answer, world⟩ := ended
  cases answer with
  | ok value => exact clean
  | error raised => exact .inr ⟨clean, fun _ => reason raised rfl⟩

/-- How a command ends. -/
theorem start_command (driver : AppiumDriver) (method path : String) (body : RequestBody)
    (make : Json → Except Raised Value) (scene : Scene (Wire World)) {reply : AppiumReply}
    {world : World}
    (served : appium.serve ⟨method, driver.url path, body⟩ scene.world.world = (reply, world)) :
    (call (driver.command appium method path body make)).start scene =
      ((appium.http (driver.url path) reply >>= make).mapError StepError.known,
        { scene with
          world := ⟨world, scene.world.exchanges ++
            [⟨⟨method, driver.url path, body⟩, reply⟩]⟩ }) := by
  simp only [start_call, AppiumDriver.command, served]

/-- **A command is fair**: it raises what its exchange says. -/
theorem fair_command (driver : AppiumDriver) (method path : String) {body : RequestBody}
    {make : Json → Except Raised Value}
    (shaped : ∀ payload, blaming (make payload) = !body.expects payload) :
    appium.Fair excuse (call (driver.command appium method path body make)) := by
  intro scene clean
  rcases served : appium.serve ⟨method, driver.url path, body⟩ scene.world.world with
    ⟨reply, world⟩
  rw [start_command driver method path body make scene served]
  have verdict := appium.http_blaming ⟨method, driver.url path, body⟩ reply
    (driver.contains_url path) shaped
  dsimp only at verdict
  have extended : appium.charges ⟨⟨method, driver.url path, body⟩, reply⟩ = false →
      ∀ exchange ∈ scene.world.exchanges ++ [⟨⟨method, driver.url path, body⟩, reply⟩],
        appium.charges exchange = false := by
    intro spared exchange member
    rcases List.mem_append.mp member with earlier | last
    · exact clean exchange earlier
    · obtain rfl := List.mem_singleton.mp last
      exact spared
  generalize appium.http (driver.url path) reply >>= make = answer at verdict ⊢
  cases answer with
  | ok value => exact extended verdict.symm
  | error raised =>
    cases blames : raised.blames with
    | true =>
      rw [blaming_error, blames] at verdict
      exact .inl ⟨blames, _, _, rfl, clean, verdict.symm⟩
    | false =>
      rw [blaming_error, blames] at verdict
      refine .inr ⟨extended verdict.symm, fun known => ?_⟩
      rw [StepError.blames, blames] at known
      cases known

section
variable (driver : AppiumDriver) (task : TaskSetting World)
  (credentials : Option Auth.CredentialStore)

/-- Publishing exchanges nothing. -/
theorem fair_progress (phase message : String) (data : Fields) :
    appium.Fair excuse (progress (driver.setting appium task) phase message data) :=
  (fair_read _).bind fun _ _ clean => clean

/-- An element is looked for with one command. -/
theorem fair_element (step : Fields) :
    appium.Fair excuse (Android.element (driver.setting appium task) step) := by
  refine (fair_raising fun blames => ?_).bind fun place => ?_
  · rw [AndroidTarget.locator_spares] at blames
    cases blames
  · exact fair_command driver "POST" "/element" (appium.elementOf_blaming _ _)

/-- `_reveal` classifies whatever it raises, unless the environment cannot be asked. -/
theorem reveal_blaming (setting : TaskSetting (Wire World)) (step : Fields) :
    blaming (Android.reveal setting credentials step) =
      unaskable setting.python (credentials.map Auth.CredentialStore.environ) step := by
  unfold Android.reveal unaskable
  dsimp only
  cases (step.get "credential").truthy with
  | false => rfl
  | true =>
    rw [Bool.not_true, if_neg Bool.false_ne_true, Bool.true_and]
    cases credentials with
    | none => rfl
    | some store =>
      rw [Option.map_some, Option.any_some]
      dsimp only
      cases asked : store.environ (envKey setting.python
          ((step.get "credential").text setting.python)) with
      | error error =>
        rw [Auth.CredentialStore.resolve_refused setting.python asked]
        rfl
      | ok raw =>
        rcases Auth.CredentialStore.resolves setting.python asked with
          ⟨credential, found⟩ | ⟨message, failed⟩
        · rw [found]
          dsimp only
          split
          · cases credential.username <;> rfl
          · cases credential.secret <;> rfl
        · rw [failed]
          rfl

/-- A `wait` blames the phone for its deadline, or for its seconds. -/
theorem fair_wait {step : Fields}
    (sleeps : ∀ seconds world raised,
      (task.outside.sleep seconds world).1 = .error raised → excuse (.known raised))
    (careful : sleepable appium.python (step.getD "seconds" (.float 1)) = false →
      ∀ error, excuse error) :
    appium.Fair excuse (wait (driver.setting appium task) step) := by
  have read : (raising (escaping (step.getD "seconds" (.float 1)).toFloat) :
      Act (Wire World) Float).Ends appium.Clean
        (fun seconds scene => appium.Clean scene ∧
          (step.getD "seconds" (.float 1)).toFloat = .ok seconds) (appium.Judged excuse) := by
    refine .lift (fun seconds found _ clean => ⟨clean, ?_⟩) fun error failed _ clean =>
      .inr ⟨clean, fun _ => careful ?_ error⟩
    · cases number : (step.getD "seconds" (.float 1)).toFloat with
      | ok value =>
        rw [number] at found
        cases found
        rfl
      | error error =>
        rw [number] at found
        cases found
    · cases number : (step.getD "seconds" (.float 1)).toFloat with
      | ok value =>
        rw [number] at failed
        cases failed
      | error error => simp [sleepable, number]
  refine read.bind fun seconds => ?_
  apply Ends.given
  intro number
  have slept : appium.Fair excuse
      (raising (escaping (sleep appium.python seconds)) : Act (Wire World) Unit) := by
    apply fair_raising
    intro _ raised failed
    apply careful
    cases refuses : sleep appium.python seconds with
    | ok _ =>
      rw [refuses] at failed
      cases failed
    | error error => simp [sleepable, number, refuses, refused]
  exact slept.bind fun _ => fair_call (sleeps seconds)

/-- **A step is fair.** -/
theorem fair_runStep {step : Fields} {op : Json}
    (sleeps : ∀ seconds world raised,
      (task.outside.sleep seconds world).1 = .error raised → excuse (.known raised))
    (careful : op.isText "wait" = true →
      sleepable appium.python (step.getD "seconds" (.float 1)) = false → ∀ error, excuse error)
    (askable : op.isText "type_secret" = true →
      unaskable appium.python (credentials.map Auth.CredentialStore.environ) step = true →
        ∀ error, excuse error)
    (index : Nat) :
    appium.Fair excuse
      (Android.runStep (driver.setting appium task) credentials step op index) := by
  have element : appium.Fair excuse (Android.element (driver.setting appium task) step) :=
    fair_element driver task step
  unfold Android.runStep
  dsimp only
  refine Ends.ite (fun _ => ?_) fun _ => Ends.ite (fun _ => ?_) fun _ =>
    Ends.ite (fun secret => ?_) fun _ => Ends.ite (fun _ => ?_) fun _ =>
    Ends.ite (fun waits => ?_) fun _ => Ends.ite (fun _ => ?_) fun _ => ?_
  · refine element.bind fun found => ?_
    refine (fair_command driver "POST" _ fun payload => rfl).bind fun _ => ?_
    exact fair_pure _
  · refine element.bind fun found => ?_
    refine (fair_command driver "POST" _ fun payload => rfl).bind fun _ => ?_
    exact fair_pure _
  · refine element.bind fun found => ?_
    refine (fair_raising fun blames raised _ => ?_).bind fun revealed => ?_
    · rw [reveal_blaming credentials (driver.setting appium task) step] at blames
      exact askable secret blames _
    · refine (fair_command driver "POST" _ fun payload => rfl).bind fun _ => ?_
      exact fair_pure _
  · refine element.bind fun found => ?_
    refine (fair_command driver "GET" _ appium.valueOf_blaming).bind fun text => ?_
    exact fair_pure _
  · refine (fair_wait driver task sleeps (careful waits)).bind fun _ => ?_
    exact fair_pure _
  · refine (fair_command driver "GET" _ appium.valueOf_blaming).bind fun source => ?_
    exact fair_pure _
  · exact fair_throw nofun

/-- **One round is fair.** -/
theorem fair_turn {step : Json}
    (sleeps : ∀ seconds world raised,
      (task.outside.sleep seconds world).1 = .error raised → excuse (.known raised))
    (careful : careless appium.python credentials step = true → ∀ error, excuse error)
    (total index : Nat) (captured : Fields) :
    appium.Fair excuse
      (Android.turn (driver.setting appium task) credentials total index captured step) := by
  have parsed : (raising (fieldsOf step) : Act (Wire World) Fields).Ends appium.Clean
      (fun fields scene => appium.Clean scene ∧ step = .obj fields) (appium.Judged excuse) := by
    refine .lift (fun fields found _ clean => ⟨clean, ?_⟩) fun error failed _ clean =>
      .inr ⟨clean, fun _ => careful ?_ error⟩
    · cases step with
      | obj known =>
        cases found
        rfl
      | _ => cases found
    · cases step with
      | obj known => cases failed
      | _ => rfl
  refine (fair_read _).bind fun remaining => ?_
  refine Ends.ite (fun _ => fair_throw nofun) fun _ => ?_
  refine parsed.bind fun fields => ?_
  apply Ends.given
  rintro rfl
  have ran : appium.Fair excuse (Android.runStep (driver.setting appium task) credentials fields
      (Fields.get fields "op") index) := by
    refine fair_runStep driver task credentials sleeps (fun waits wakeful => careful ?_)
      (fun secret unasked => careful ?_) index
    · simp [careless, waits, wakeful]
    · simp [careless, secret, unasked]
  refine (fair_progress driver task _ _ _).bind fun _ => ?_
  refine ran.bind fun found => ?_
  exact fair_pure _

/-- **An attempt on an open session is fair.** -/
theorem fair_execute {steps : List Json}
    (opens : ∀ world, ∃ opened after, task.outside.ensure world = (.ok opened, after))
    (sleeps : ∀ seconds world raised,
      (task.outside.sleep seconds world).1 = .error raised → excuse (.known raised))
    (careful : ∀ step ∈ steps, careless appium.python credentials step = true →
      ∀ error, excuse error) :
    appium.Fair excuse (Android.execute (driver.setting appium task) credentials steps) := by
  have opened : appium.Fair excuse (call (driver.setting appium task).outside.ensure) := by
    apply fair_call
    intro world raised failed
    obtain ⟨handle, after, ended⟩ := opens world
    cases failed.symm.trans (congrArg Prod.fst ended)
  have acquired : appium.Fair excuse (acquire (driver.setting appium task) "appium") := by
    refine ((fair_progress driver task _ _ _).bind fun _ => opened).bind fun found => ?_
    have cleared : appium.Fair excuse (clearHeaders found.2 : Act (Wire World) Unit) :=
      fun _ clean => clean
    refine cleared.bind fun _ => ?_
    refine (fair_progress driver task _ _ _).bind fun _ => ?_
    exact fair_pure _
  refine acquired.bind fun handle => ?_
  refine (Ends.script (fun step member number captured => ?_) 1 []).bind fun captured => ?_
  · exact fair_turn driver task credentials sleeps (careful step member) steps.length number
      captured
  · exact fair_pure _

end

/-- **What convicts a phone.** On an open session, whatever the server, the credentials and the
script are: an exchange that speaks against the phone is the last one of the attempt, and the
attempt ends in an error that blames the phone; and an attempt that blames the phone has had such
an exchange, has met its deadline, or has a step that blames every phone. -/
theorem phone_convicted (appium : Appium World) (driver : AppiumDriver)
    (task : TaskSetting World) (credentials : Option Auth.CredentialStore) {steps : List Json}
    (opens : ∀ world, ∃ opened after, task.outside.ensure world = (.ok opened, after))
    (sleeps : ∀ seconds world raised,
      (task.outside.sleep seconds world).1 = .error raised → raised = .timeout)
    {scene after : Scene (Wire World)} {answer : Except StepError Json}
    (fresh : scene.world.exchanges = [])
    (ended : (Android.execute (driver.setting appium task) credentials steps).start scene =
      (answer, after)) :
    (∀ exchange ∈ after.world.exchanges, appium.charges exchange = true →
        after.world.exchanges.getLast? = some exchange ∧
          ∃ error, answer = .error error ∧ error.blames = true) ∧
      ∀ error, answer = .error error → error.blames = true →
        (∃ exchange ∈ after.world.exchanges, appium.charges exchange = true) ∨
          error = .known .timeout ∨
            ∃ step ∈ steps, careless appium.python credentials step = true := by
  have clean : appium.Clean scene := by
    rw [Clean, fresh]
    exact nofun
  have fair : appium.Fair (fun error => error = .known .timeout ∨
      ∃ step ∈ steps, careless appium.python credentials step = true)
      (Android.execute (driver.setting appium task) credentials steps) := by
    apply fair_execute driver task credentials opens
    · intro seconds world raised failed
      exact .inl (by rw [sleeps seconds world raised failed])
    · exact fun step member unguarded error => .inr ⟨step, member, unguarded⟩
  replace fair := fair scene clean
  rw [ended] at fair
  cases answer with
  | ok value =>
    refine ⟨fun exchange member charged => ?_, nofun⟩
    rw [fair exchange member] at charged
    cases charged
  | error error =>
    rcases fair with ⟨blames, earlier, last, exchanges, spared, charged⟩ | ⟨spared, excused⟩
    · refine ⟨fun exchange member speaks => ?_, fun _ _ _ => .inl ⟨last, ?_, charged⟩⟩
      · rw [exchanges] at member
        rcases List.mem_append.mp member with before | at_
        · rw [spared exchange before] at speaks
          cases speaks
        · obtain rfl := List.mem_singleton.mp at_
          exact ⟨by simp [exchanges], error, rfl, blames⟩
      · simp [exchanges]
    · refine ⟨fun exchange member charged => ?_, ?_⟩
      · rw [spared exchange member] at charged
        cases charged
      · rintro _ ⟨⟩ blames
        exact .inr (excused blames)

/-- A server that finds every element and has forgotten the session when it is clicked. -/
def forgetful : Appium Unit where
  python := plainPython
  loads raw :=
    if raw = "\x7b\"value\": \x7b\"ELEMENT\": \"el-1\"\x7d\x7d" then
      .ok (.obj [("value", .obj [("ELEMENT", .str "el-1")])])
    else .error .decode
  serve request world :=
    match request.body with
    | .locator _ _ => (.body "\x7b\"value\": \x7b\"ELEMENT\": \"el-1\"\x7d\x7d", world)
    | _ => (.status 404 "", world)

/-- A task on a phone. -/
def phoneTask : TaskSetting Unit where
  python := plainPython
  outside := obliging
  context := ⟨"demo", "first", some "phone-a", 1⟩
  jwtExpiry _ := .ok none

/-- Two taps on that phone. -/
def twoTaps : List Json :=
  [.obj [("op", .str "tap"), ("id", .str "ok")], .obj [("op", .str "tap"), ("id", .str "next")]]

/-- The session is gone at the first click, and nothing is asked after it. -/
theorem phone_convicted_forgetful :
    ∃ (answer : Except StepError Json) (after : Scene (Wire Unit)),
      (Android.execute ((AppiumDriver.new "http://host:4723/" "s-1").setting forgetful phoneTask)
        none twoTaps).start { world := { world := () } } = (answer, after) ∧
      after.world.exchanges.getLast? = some ⟨⟨"POST",
        "http://host:4723/session/s-1/element/el-1/click", .empty⟩, .status 404 ""⟩ ∧
      ∃ error, answer = .error error ∧ error.blames = true := by
  have exchanged : ((Android.execute
      ((AppiumDriver.new "http://host:4723/" "s-1").setting forgetful phoneTask) none
      twoTaps).start { world := { world := () } }).2.world.exchanges.getLast? = some ⟨⟨"POST",
        "http://host:4723/session/s-1/element/el-1/click", .empty⟩, .status 404 ""⟩ := by
    decide +kernel
  rcases ended : (Android.execute
    ((AppiumDriver.new "http://host:4723/" "s-1").setting forgetful phoneTask) none
    twoTaps).start { world := { world := () } } with ⟨answer, after⟩
  rw [ended] at exchanged
  have convicted := (phone_convicted forgetful (.new "http://host:4723/" "s-1") phoneTask none
    (fun _ => ⟨_, _, rfl⟩) nofun rfl ended).1 _ (List.mem_of_getLast? exchanged) (by decide +kernel)
  exact ⟨answer, after, rfl, convicted⟩

end Appium

end DeviceOrchestrator
