import DeviceOrchestrator.Targets.Apk
import DeviceOrchestrator.Targets.Web
import DeviceOrchestrator.Verif.SchedulerSteps

/-!
# Which scripts take a healthy device out of the pool

On a healthy device every call of the driver and of adb is answered, so whatever blames the device
comes from the script: a step that is no object, a number that cannot be converted or a name that
the environment cannot encode outside every handler, a file that is no build, a package that is not
there or that adb does not remove. `unguarded` names these steps for each target, and
`spares_iff_guarded` says that an execution spares its device exactly if it reaches none of them.
-/
namespace DeviceOrchestrator

/-- Whether an answer is an exception that blames the device. -/
def blaming {α : Type} : Except Raised α → Bool
  | .ok _ => false
  | .error raised => raised.blames

/-- Whether a conversion raises. -/
def refused {α : Type} : Except PyError α → Bool
  | .ok _ => false
  | .error _ => true

section
variable {α β : Type}

@[simp]
theorem blaming_ok (value : α) : blaming (.ok value) = false := rfl

@[simp]
theorem blaming_error (raised : Raised) : blaming (.error raised : Except Raised α) =
    raised.blames := rfl

/-- What follows a value. -/
@[simp]
theorem blaming_ok_bind (value : α) (next : α → Except Raised β) :
    blaming (.ok value >>= next) = blaming (next value) := rfl

/-- An answer that blames nobody, before something that blames nobody. -/
theorem spared_bind {answer : Except Raised α} {next : α → Except Raised β}
    (first : blaming answer = false) (later : ∀ value, blaming (next value) = false) :
    blaming (answer >>= next) = false := by
  cases answer with
  | ok value => exact later value
  | error raised => exact first

/-- What is made of a value blames nobody. -/
@[simp]
theorem blaming_map (answer : Except Raised α) (make : α → β) :
    blaming (answer >>= fun value => .ok (make value)) = blaming answer := by
  cases answer <;> rfl

/-- A conversion, before something that blames nobody. -/
theorem refused_bind {answer : Except PyError α} {next : α → Except Raised β}
    (later : ∀ value, blaming (next value) = false) :
    blaming (escaping answer >>= next) = refused answer := by
  cases answer with
  | ok value => exact later value
  | error error => rfl

end

/-- A value is a text exactly if it is that string. -/
theorem isText_eq {value : Json} {text : String} :
    value.isText text = true ↔ value = .str text := by
  cases value with
  | str found => simp
  | _ => simp [Json.isText]

/-! ## The android target -/

/-- No call of the driver fails in a way that blames the device. -/
structure AndroidAnswers.Healthy (driver : AndroidAnswers) : Prop where
  /-- `find`. -/
  find : ∀ using_ value, blaming (driver.find using_ value) = false
  /-- `click`. -/
  click : ∀ element, blaming (driver.click element) = false
  /-- `send_keys`. -/
  sendKeys : ∀ element text, blaming (driver.sendKeys element text) = false
  /-- `text_of`. -/
  textOf : ∀ element, blaming (driver.textOf element) = false
  /-- `source`. -/
  source : blaming driver.source = false

/-- Whether the environment cannot be asked for the credential of a step. -/
def unaskable {α : Type} (python : Python) (environ : Option (String → Except PyError α))
    (step : Fields) : Bool :=
  (step.get "credential").truthy && environ.any fun get =>
    refused (get (envKey python ((step.get "credential").text python)))

/-- Whether `asyncio.sleep(float(value))` returns. -/
def sleepable (python : Python) (value : Json) : Bool :=
  match value.toFloat with
  | .ok seconds => !refused (sleep python seconds)
  | .error _ => false

namespace AndroidTarget

variable (python : Python) (target : AndroidTarget)

/-- A `wait` whose seconds are no number, and a `type_secret` that finds its element and cannot ask
the environment for its credential. -/
def unguardedStep (driver : AndroidAnswers) (step : Fields) (op : Json) : Bool :=
  if op.isText "wait" then !sleepable python (step.getD "seconds" (.float 1))
  else if op.isText "type_secret" then
    ((locator python step).bind fun place => driver.find place.1 place.2).isOk &&
      unaskable python (target.credentials.map CredentialStore.environ) step
  else false

/-- The steps that blame a healthy device: these, and those that are no object. -/
def unguarded (driver : AndroidAnswers) (step : Json) : Bool :=
  !driver.remaining.le 0 &&
    match step with
    | .obj fields => unguardedStep python target driver fields (Fields.get fields "op")
    | _ => true

/-- A step without a locator is rejected. -/
theorem locator_spares (step : Fields) : blaming (locator python step) = false := by
  unfold locator
  split
  · rfl
  · split
    · rfl
    · split <;> rfl

/-- What the environment cannot encode is raised as it is. -/
theorem resolve_refused {store : CredentialStore} {ref : String} {error : PyError}
    (failed : store.environ (envKey python ref) = .error error) :
    store.resolve python ref = .error (.builtin error) := by
  simp only [CredentialStore.resolve, failed, escaping, bind, Except.bind]

/-- Any other credential that does not resolve is rejected. -/
theorem resolve_spares {store : CredentialStore} {ref : String} {raw : Option String}
    (asked : store.environ (envKey python ref) = .ok raw) :
    (∃ credential, store.resolve python ref = .ok credential) ∨
      ∃ message, store.resolve python ref = .error (.auth message) := by
  simp only [CredentialStore.resolve, asked, escaping, bind, Except.bind]
  split
  · split <;> exact .inl ⟨_, rfl⟩
  · split
    · exact .inl ⟨_, rfl⟩
    · exact .inr ⟨_, rfl⟩

/-- `_reveal` classifies whatever it raises, unless the environment cannot be asked. -/
theorem reveal_blaming (step : Fields) :
    blaming (target.reveal python step) =
      unaskable python (target.credentials.map CredentialStore.environ) step := by
  unfold reveal unaskable
  dsimp only
  cases (step.get "credential").truthy with
  | false => rfl
  | true =>
    rw [Bool.not_true, if_neg Bool.false_ne_true, Bool.true_and]
    cases target.credentials with
    | none => rfl
    | some store =>
      rw [Option.map_some, Option.any_some]
      dsimp only
      cases asked : store.environ (envKey python ((step.get "credential").text python)) with
      | error error =>
        rw [resolve_refused python asked]
        rfl
      | ok raw =>
        rcases resolve_spares python asked with ⟨credential, found⟩ | ⟨message, failed⟩
        · rw [found]
          dsimp only
          split
          · cases credential.username <;> rfl
          · cases credential.secret <;> rfl
        · rw [failed]
          rfl

/-- A `type_secret` on a healthy device. -/
theorem typeSecret_blaming {driver : AndroidAnswers} (healthy : driver.Healthy) (step : Fields) :
    blaming (do
      let (using_, value) ← locator python step
      let element ← driver.find using_ value
      let secret ← target.reveal python step
      driver.sendKeys element secret
      .ok ([] : Fields)) =
      (((locator python step).bind fun place => driver.find place.1 place.2).isOk &&
        unaskable python (target.credentials.map CredentialStore.environ) step) := by
  have located := locator_spares python step
  cases placed : locator python step with
  | error raised =>
    rw [placed] at located
    exact located
  | ok place =>
    have found := healthy.find place.1 place.2
    simp only [Except.bind, blaming_ok_bind]
    cases answered : driver.find place.1 place.2 with
    | error raised =>
      rw [answered] at found
      exact found
    | ok element =>
      have revealed := reveal_blaming python target step
      rw [blaming_ok_bind, Except.isOk, Except.toBool, Bool.true_and, ← revealed]
      cases target.reveal python step with
      | error raised => rfl
      | ok secret =>
        rw [blaming_ok_bind]
        exact spared_bind (healthy.sendKeys element secret) fun _ => rfl

/-- Only a `wait` and a `type_secret` raise something unclassified. -/
theorem runStep_blaming {driver : AndroidAnswers} (healthy : driver.Healthy) (step : Fields)
    (op : Json) (index : Nat) :
    blaming (target.runStep python driver step op index) =
      unguardedStep python target driver step op := by
  have located : ∀ {β : Type} (next : String × String → Except Raised β),
      (∀ place, blaming (next place) = false) →
      blaming (locator python step >>= next) = false := fun _ later =>
    spared_bind (locator_spares python step) later
  have otherwise : ∀ name : String, op.isText name = true → name ≠ "wait" → name ≠ "type_secret" →
      unguardedStep python target driver step op = false := by
    intro name named apart distinct
    simp [unguardedStep, isText_eq.mp named, apart, distinct]
  unfold runStep
  by_cases tap : op.isText "tap"
  · rw [if_pos tap, otherwise "tap" tap (by decide) (by decide)]
    exact located _ fun place => spared_bind (healthy.find _ _) fun element =>
      spared_bind (healthy.click element) fun _ => rfl
  rw [if_neg tap]
  by_cases type : op.isText "type"
  · rw [if_pos type, otherwise "type" type (by decide) (by decide)]
    exact located _ fun place => spared_bind (healthy.find _ _) fun element =>
      spared_bind (healthy.sendKeys element _) fun _ => rfl
  rw [if_neg type]
  by_cases secret : op.isText "type_secret"
  · have unwaiting : op.isText "wait" = false := by simp [isText_eq.mp secret]
    rw [if_pos secret, unguardedStep, unwaiting, if_neg Bool.false_ne_true, if_pos secret]
    exact typeSecret_blaming python target healthy step
  rw [if_neg secret]
  by_cases read : op.isText "read"
  · rw [if_pos read, otherwise "read" read (by decide) (by decide)]
    exact located _ fun place => spared_bind (healthy.find _ _) fun element =>
      spared_bind (healthy.textOf element) fun _ => rfl
  rw [if_neg read]
  by_cases wait : op.isText "wait"
  · rw [if_pos wait, unguardedStep, if_pos wait, sleepable]
    cases (step.getD "seconds" (.float 1)).toFloat with
    | error error => rfl
    | ok seconds =>
      have slept : blaming (escaping (sleep python seconds) >>= fun _ => .ok ([] : Fields)) =
          refused (sleep python seconds) := refused_bind fun _ => rfl
      rw [Bool.not_not]
      exact slept
  rw [if_neg wait, unguardedStep, if_neg wait, if_neg secret]
  by_cases dump : op.isText "dump"
  · rw [if_pos dump]
    exact spared_bind healthy.source fun _ => rfl
  · rw [if_neg dump]
    rfl

/-- **What blames a healthy device in one round.** -/
theorem turn_blaming {answers : Nat → AndroidAnswers} {index : Nat}
    (healthy : (answers index).Healthy) (captured : Fields) (step : Json) :
    blaming (target.turn python answers index captured step) =
      target.unguarded python (answers index) step := by
  unfold turn unguarded
  cases (answers index).remaining.le 0 with
  | true => rfl
  | false =>
    rw [if_neg Bool.false_ne_true, Bool.not_false, Bool.true_and]
    cases step with
    | obj fields =>
      simp only [fieldsOf, blaming_ok_bind, blaming_map]
      exact target.runStep_blaming python healthy fields (Fields.get fields "op") index
    | _ => rfl

end AndroidTarget

/-! ## The web target -/

/-- Whether an answer is a `RetryableError` that blames the device. -/
def accusing {α : Type} : Except Raised α → Bool
  | .error (.retryable _ blamesDevice) => blamesDevice
  | _ => false

section
variable {α β : Type}

/-- An answer that blames nobody accuses nobody. -/
theorem accusing_of_spared {answer : Except Raised α} (spared : blaming answer = false) :
    accusing answer = false := by
  cases answer with
  | ok value => rfl
  | error raised => cases raised <;> first | rfl | exact spared

/-- A built-in exception accuses nobody. -/
@[simp]
theorem accusing_escaping (answer : Except PyError α) : accusing (escaping answer) = false := by
  cases answer <;> rfl

/-- Two answers in a row that accuse nobody. -/
theorem unaccused_bind {answer : Except Raised α} {next : α → Except Raised β}
    (first : accusing answer = false) (later : ∀ value, accusing (next value) = false) :
    accusing (answer >>= next) = false := by
  cases answer with
  | ok value => exact later value
  | error raised => cases raised <;> first | rfl | exact first

/-- What is made of a value accuses nobody. -/
@[simp]
theorem accusing_map (answer : Except Raised α) (make : α → β) :
    accusing (make <$> answer) = accusing answer := by
  cases answer with
  | ok value => rfl
  | error raised => cases raised <;> rfl

end

/-- No call of the driver fails in a way that blames the device. -/
structure WebAnswers.Healthy (driver : WebAnswers) : Prop where
  /-- `goto`. -/
  goto : ∀ url budgetMs, blaming (driver.goto url budgetMs) = false
  /-- `click`. -/
  click : ∀ selector budgetMs, blaming (driver.click selector budgetMs) = false
  /-- `fill`. -/
  fill : ∀ selector text budgetMs, blaming (driver.fill selector text budgetMs) = false
  /-- `text_of`. -/
  textOf : ∀ selector budgetMs, blaming (driver.textOf selector budgetMs) = false
  /-- `set_headers`. -/
  setHeaders : ∀ headers, blaming (driver.setHeaders headers) = false
  /-- `cookies`. -/
  cookies : blaming driver.cookies = false
  /-- `set_cookies`. -/
  setCookies : ∀ cookies, blaming (driver.setCookies cookies) = false
  /-- `read_storage`. -/
  readStorage : ∀ key, blaming (driver.readStorage key) = false

namespace WebTarget

variable (python : Python) (target : WebTarget)

/-- The steps that blame a healthy device: those that are no object, and those whose budget
cannot be computed. -/
def unguarded (driver : WebAnswers) (step : Json) : Bool :=
  !driver.remaining.le 0 &&
    match step with
    | .obj fields => refused (budgetMs driver.remaining fields)
    | _ => true

/-- A credential that is missing or incomplete accuses nobody. -/
theorem resolve_unaccused (step : Fields) : accusing (target.resolve python step) = false := by
  unfold resolve
  dsimp only
  split
  · rfl
  · split
    · rfl
    · rename_i store _
      cases asked : store.environ (envKey python ((step.get "credential").text python)) with
      | error error =>
        rw [AndroidTarget.resolve_refused python asked]
        rfl
      | ok raw =>
        rcases AndroidTarget.resolve_spares python asked with
          ⟨credential, found⟩ | ⟨message, failed⟩
        · rw [found]
          rfl
        · rw [failed]
          rfl

/-- A credential without a header form accuses nobody. -/
theorem header_unaccused (base64 : String → String) (credential : Credential) :
    accusing (credential.header base64) = false := by
  unfold Credential.header
  dsimp only
  split
  · split <;> rfl
  · split
    · split <;> rfl
    · rfl

/-- `_auth` on a healthy device accuses nobody. -/
theorem auth_unaccused {driver : WebAnswers} (healthy : driver.Healthy) (step : Fields) :
    accusing (target.auth python driver step) = false := by
  unfold auth
  dsimp only
  split
  · refine unaccused_bind (accusing_escaping _) fun live => ?_
    split
    · exact unaccused_bind (accusing_of_spared (healthy.setCookies _)) fun _ => rfl
    · rfl
  · refine unaccused_bind (resolve_unaccused python target step) fun credential => ?_
    split
    · exact unaccused_bind (header_unaccused _ credential) fun header =>
        unaccused_bind (accusing_of_spared (healthy.setHeaders _)) fun _ => rfl
    · split
      · split
        · rfl
        · exact unaccused_bind (accusing_escaping _) fun token =>
            unaccused_bind (accusing_of_spared (healthy.setHeaders _)) fun _ => rfl
      · rfl

/-- `_capture_session` on a healthy device accuses nobody. -/
theorem captureSession_unaccused {driver : WebAnswers} (healthy : driver.Healthy)
    (step : Fields) : accusing (captureSession python driver step) = false := by
  unfold captureSession
  dsimp only
  refine unaccused_bind (accusing_of_spared healthy.cookies) fun cookies => ?_
  refine unaccused_bind (accusing_escaping _) fun _ => ?_
  split
  · refine unaccused_bind (accusing_of_spared (healthy.readStorage _)) fun stored => ?_
    split
    · rfl
    · exact unaccused_bind (accusing_escaping _) fun _ =>
        unaccused_bind (accusing_escaping _) fun _ => rfl
  · rfl

/-- A missing key accuses nobody. -/
theorem field_unaccused (step : Fields) (key : String) :
    accusing (field python step key) = false := by
  unfold field
  split <;> rfl

/-- The `try` of `_run_step` accuses nobody on a healthy device. -/
theorem attempt_unaccused {driver : WebAnswers} (healthy : driver.Healthy) (step : Fields)
    (op : Json) (index : Nat) (budgetMs : Int) :
    accusing (target.attempt python driver step op index budgetMs) = false := by
  unfold attempt
  split
  · rw [accusing_map]
    exact auth_unaccused python target healthy step
  split
  · rw [accusing_map]
    exact captureSession_unaccused python healthy step
  split
  · exact unaccused_bind (field_unaccused python step _) fun url =>
      unaccused_bind (accusing_of_spared (healthy.goto url _)) fun _ => rfl
  split
  · exact unaccused_bind (field_unaccused python step _) fun selector =>
      unaccused_bind (accusing_of_spared (healthy.click selector _)) fun _ => rfl
  split
  · exact unaccused_bind (field_unaccused python step _) fun selector =>
      unaccused_bind (accusing_of_spared (healthy.fill selector _ _)) fun _ => rfl
  split
  · exact unaccused_bind (field_unaccused python step _) fun selector =>
      unaccused_bind (accusing_of_spared (healthy.textOf selector _)) fun _ => rfl
  split
  · exact unaccused_bind (accusing_escaping _) fun seconds =>
      unaccused_bind (accusing_escaping _) fun _ => rfl
  · rfl

/-- `_run_step` classifies everything but an accusation. -/
theorem runStep_blaming (driver : WebAnswers) (step : Fields) (op : Json) (index : Nat)
    (budgetMs : Int) :
    blaming (target.runStep python driver step op index budgetMs) =
      accusing (target.attempt python driver step op index budgetMs) := by
  unfold runStep
  cases target.attempt python driver step op index budgetMs with
  | ok found => cases found <;> rfl
  | error raised => cases raised <;> rfl

/-- **What blames a healthy device in one round.** -/
theorem turn_blaming {answers : Nat → WebAnswers} {index : Nat}
    (healthy : (answers index).Healthy) (captured : Fields) (step : Json) :
    blaming (target.turn python answers index captured step) =
      unguarded (answers index) step := by
  unfold turn unguarded
  cases (answers index).remaining.le 0 with
  | true => rfl
  | false =>
    rw [if_neg Bool.false_ne_true, Bool.not_false, Bool.true_and]
    cases step with
    | obj fields =>
      simp only [fieldsOf, blaming_ok_bind]
      refine refused_bind fun budget => ?_
      rw [blaming_map, runStep_blaming]
      exact attempt_unaccused python target healthy fields _ index budget
    | _ => rfl

end WebTarget

/-! ## The apk target -/

/-- Whether an answer blames the device once a missing adb is excused. -/
def charging {α : Type} : Except Raised α → Bool
  | .error (.adbNotAvailable _) => false
  | answer => blaming answer

section
variable {α β : Type}

/-- What follows a value. -/
@[simp]
theorem charging_ok_bind (value : α) (next : α → Except Raised β) :
    charging (.ok value >>= next) = charging (next value) := rfl

/-- An exception that does not blame the device blames it no more when a missing adb is
excused. -/
theorem charging_spared {raised : Raised} (spared : raised.blames = false) :
    charging (.error raised : Except Raised α) = false := by
  cases raised with
  | adbNotAvailable message => rfl
  | _ => exact spared

/-- A conversion, and what follows it. -/
theorem charging_escaping_bind (answer : Except PyError α) (next : α → Except Raised β) :
    charging (escaping answer >>= next) = match answer with
      | .ok value => charging (next value)
      | .error _ => true := by
  cases answer <;> rfl

end

/-- What is so on a device and its host, whatever adb says. -/
structure Bench where
  /-- The packages that are installed. -/
  installed : String → Bool
  /-- The packages that adb removes, with their data kept or not: a system package is refused. -/
  removes : Bool → String → Bool
  /-- The files that adb takes for a build. -/
  accepts : String → Bool

/-- adb answers every call in time and tells the truth. -/
structure ApkAnswers.Healthy (adb : ApkAnswers) (bench : Bench) : Prop where
  /-- Every call is answered. -/
  answers : ∀ args timeout, ∃ result, adb.run args timeout = .ok result ∧ result.timedOut = false
  /-- The device has room for a build and judges it. -/
  installs : ∀ flags path timeout result, bench.accepts path = true →
    adb.run (["install"] ++ flags ++ [path]) timeout = .ok result →
    ∀ code, classifyInstallOutput result = some code →
      code ∉ deviceInstallCodes ++ ["INSTALL_TIMED_OUT", "INSTALL_FAILED_UNKNOWN"]
  /-- adb fails for a file that is no build, and the device names no code for it. -/
  declines : ∀ flags path timeout result, bench.accepts path = false →
    adb.run (["install"] ++ flags ++ [path]) timeout = .ok result →
    classifyInstallOutput result = some "INSTALL_FAILED_UNKNOWN"
  /-- `dumpsys` knows the version of a package exactly if the package is installed. -/
  dumps : ∀ package timeout result,
    adb.run ["shell", "dumpsys", "package", package] timeout = .ok result →
    ((versionName result.stdout).isSome || (versionCode result.stdout).isSome) =
        bench.installed package ∧
      ∀ digits, versionCode result.stdout = some digits → (intOfText digits).isSome = true
  /-- An uninstall fails for what adb does not remove, and says of the packages that are not
  installed that they are not. -/
  uninstalls : ∀ keep package timeout result,
    adb.run (["uninstall"] ++ (if keep then ["-k"] else []) ++ [package]) timeout = .ok result →
    result.ok = bench.removes keep package ∧
      contains "not installed" (result.stdout ++ result.stderr).toLower =
        !bench.installed package

namespace ApkTarget

variable (python : Python) (target : ApkTarget)

/-- Whether adb reports that a build was installed. -/
def reportsSuccess : Except Raised AdbResult → Bool
  | .ok result => (classifyInstallOutput result).isNone
  | .error _ => false

/-- An `install` of a file that is no build or cannot be read, or with a timeout that is no
number. -/
def unguardedInstall (adb : ApkAnswers) (bench : Bench) (step : Fields) : Bool :=
  let path := installPath python step
  path != "" && (adb.file path).isFile &&
    (refused (adb.file path).digest ||
      match (step.getD "timeout_s" (.float target.installTimeoutS)).toFloat with
      | .error _ => true
      | .ok seconds =>
        !bench.accepts path ||
          reportsSuccess (adb.run (["install"] ++ installFlags step ++ [path])
            (pyMin seconds adb.budget)) && refused (adb.file path).size)

/-- An expected version code that is no integer, where the version name is as expected. -/
def unguardedVersion (step : Fields) (name : Option String) : Bool :=
  ((step.get "expect_version_name").isNull ||
      decide (name = some ((step.get "expect_version_name").text python))) &&
    !(step.get "expect_version_code").isNull &&
    refused (step.get "expect_version_code").toInt

/-- A `verify` of a package that is not installed, or with a number that is none. -/
def unguardedVerify (adb : ApkAnswers) (bench : Bench) (step : Fields) : Bool :=
  let package := (step.get "package").text python
  (step.get "package").truthy &&
    match (step.getD "timeout_s" (.float 20)).toFloat with
    | .error _ => true
    | .ok seconds =>
      !bench.installed package ||
        match adb.run ["shell", "dumpsys", "package", package]
            (pyMin seconds (pyMax adb.budget 1)) with
        | .ok result => unguardedVersion python step (versionName result.stdout)
        | .error _ => false

/-- An `uninstall` that adb does not carry out, of a package that is installed or that must not be
missing. -/
def unguardedUninstall (bench : Bench) (step : Fields) : Bool :=
  let package := (step.get "package").text python
  (step.get "package").truthy &&
    (!bench.removes (step.getD "keep_data" (.bool false)).truthy package &&
      (bench.installed package || !(step.getD "ignore_missing" (.bool true)).truthy))

/-- The steps that blame a healthy device. -/
def unguarded (adb : ApkAnswers) (bench : Bench) (step : Json) : Bool :=
  !adb.remaining.le 0 &&
    match step with
    | .obj fields =>
      let op := Fields.get fields "op"
      if op.isText "install" then unguardedInstall python target adb bench fields
      else if op.isText "verify" then unguardedVerify python adb bench fields
      else if op.isText "uninstall" then unguardedUninstall python bench fields
      else false
    | _ => true

section
variable {adb : ApkAnswers} {bench : Bench}

/-- On a healthy device a build that fails to install blames nobody. -/
theorem raiseForInstallCode_spares (healthy : adb.Healthy bench) {flags : List String}
    {path code : String} {timeout : Float} {result : AdbResult}
    (accepted : bench.accepts path = true)
    (answer : adb.run (["install"] ++ flags ++ [path]) timeout = .ok result)
    (named : classifyInstallOutput result = some code) (package deviceId : String) :
    (raiseForInstallCode code package deviceId).blames = false := by
  have well := healthy.installs flags path timeout result accepted answer code named
  simp only [List.mem_append, List.mem_cons, List.not_mem_nil, or_false] at well
  unfold raiseForInstallCode
  split
  · rfl
  · split
    · rfl
    · rfl

/-- What blames a healthy device in `_install`. -/
theorem install_charging (healthy : adb.Healthy bench) (deviceId : DeviceId) (step : Fields) :
    charging (target.install python adb deviceId step) =
      unguardedInstall python target adb bench step := by
  unfold install unguardedInstall
  dsimp only
  by_cases empty : installPath python step = ""
  · simp [empty]
    rfl
  · rw [if_neg empty, bne_iff_ne.mpr empty, Bool.true_and]
    cases (adb.file (installPath python step)).isFile with
    | false => rfl
    | true =>
      rw [Bool.not_true, if_neg Bool.false_ne_true, Bool.true_and, charging_escaping_bind]
      cases (adb.file (installPath python step)).digest with
      | error error => rfl
      | ok digest =>
        dsimp only
        rw [charging_escaping_bind]
        cases (step.getD "timeout_s" (.float target.installTimeoutS)).toFloat with
        | error error => rfl
        | ok seconds =>
          obtain ⟨result, answer, -⟩ := healthy.answers
            (["install"] ++ installFlags step ++ [installPath python step])
            (pyMin seconds adb.budget)
          dsimp only
          rw [answer, charging_ok_bind]
          cases accepted : bench.accepts (installPath python step) with
          | false =>
            rw [healthy.declines _ _ _ result accepted answer]
            rfl
          | true =>
            cases named : classifyInstallOutput result with
            | some code =>
              simp only [reportsSuccess, named, Option.isNone_some, Bool.false_and]
              exact charging_spared
                (raiseForInstallCode_spares healthy accepted answer named _ deviceId)
            | none =>
              simp only [reportsSuccess, named, Option.isNone_none, Bool.true_and]
              rw [charging_escaping_bind]
              cases (adb.file (installPath python step)).size <;> rfl

/-- A step without a package is rejected. -/
theorem package_charging (step : Fields) (next : String → Except Raised Fields) :
    charging (ApkTarget.package python step >>= next) =
      ((step.get "package").truthy && charging (next ((step.get "package").text python))) := by
  unfold ApkTarget.package
  dsimp only
  split
  · rename_i given
    rw [given]
    rfl
  · rename_i given
    rw [Bool.not_eq_true] at given
    rw [given]
    rfl

/-- A shell command on a healthy device is answered. -/
theorem shell_answers (healthy : adb.Healthy bench) (deviceId : DeviceId) (command : String)
    (args : List String) {timeoutS : Json} {seconds : Float}
    (converted : timeoutS.toFloat = .ok seconds) :
    ∃ result, adb.run ("shell" :: command :: args) (pyMin seconds (pyMax adb.budget 1)) =
        .ok result ∧ shell adb deviceId command args timeoutS = .ok result := by
  obtain ⟨result, answer, inTime⟩ := healthy.answers ("shell" :: command :: args)
    (pyMin seconds (pyMax adb.budget 1))
  refine ⟨result, answer, ?_⟩
  simp [shell, converted, escaping, bind, Except.bind, answer, inTime]

/-- A shell command with a fixed timeout, before something that blames nobody. -/
theorem shell_spares (healthy : adb.Healthy bench) (deviceId : DeviceId) (command : String)
    (args : List String) (timeoutS : Float) {next : AdbResult → Except Raised Fields}
    (later : ∀ result, charging (next result) = false) :
    charging (shell adb deviceId command args (.float timeoutS) >>= next) = false := by
  have converted : (Json.float timeoutS).toFloat = .ok timeoutS := rfl
  obtain ⟨result, -, answered⟩ := shell_answers healthy deviceId command args converted
  rw [answered]
  exact later result

/-- What blames a healthy device in the comparison with the expected version. -/
theorem checkVersion_charging (deviceId : DeviceId) (package : String) (step : Fields)
    (name : Option String) (code : Option Int) :
    charging (checkVersion python deviceId package step name code) =
      unguardedVersion python step name := by
  unfold checkVersion unguardedVersion
  dsimp only
  cases ((step.get "expect_version_name").isNull ||
      decide (name = some ((step.get "expect_version_name").text python))) with
  | false => rfl
  | true =>
    rw [if_pos rfl, Bool.true_and]
    cases (step.get "expect_version_code").isNull with
    | true => rfl
    | false =>
      rw [if_neg Bool.false_ne_true, charging_escaping_bind]
      cases (step.get "expect_version_code").toInt with
      | error error => rfl
      | ok expected =>
        dsimp only
        split <;> rfl

/-- What blames a healthy device in `_verify`. -/
theorem verify_charging (healthy : adb.Healthy bench) (deviceId : DeviceId) (step : Fields) :
    charging (verify python adb deviceId step) =
      unguardedVerify python adb bench step := by
  unfold verify unguardedVerify
  rw [package_charging]
  congr 1
  generalize (step.get "package").text python = package
  cases converted : (step.getD "timeout_s" (.float 20)).toFloat with
  | error error =>
    have failed : shell adb deviceId "dumpsys" ["package", package]
        (step.getD "timeout_s" (.float 20)) = .error (.builtin error) := by
      simp [shell, converted, escaping, bind, Except.bind]
    rw [failed]
    rfl
  | ok seconds =>
    obtain ⟨result, answer, answered⟩ := shell_answers healthy deviceId "dumpsys"
      ["package", package] converted
    obtain ⟨known, digits⟩ := healthy.dumps package _ result answer
    rw [answered, charging_ok_bind]
    dsimp only
    rw [answer]
    dsimp only
    rw [← known]
    cases named : versionName result.stdout with
    | none =>
      cases coded : versionCode result.stdout with
      | none => rfl
      | some text =>
        obtain ⟨code, read⟩ := Option.isSome_iff_exists.mp (digits text coded)
        simp only [read, Option.elim_some, escaping, charging_ok_bind]
        exact checkVersion_charging python deviceId package step none (some code)
    | some name =>
      cases coded : versionCode result.stdout with
      | none => exact checkVersion_charging python deviceId package step (some name) none
      | some text =>
        obtain ⟨code, read⟩ := Option.isSome_iff_exists.mp (digits text coded)
        simp only [read, Option.elim_some, escaping, charging_ok_bind]
        exact checkVersion_charging python deviceId package step (some name) (some code)

/-- What blames a healthy device in `_uninstall`. -/
theorem uninstall_charging (healthy : adb.Healthy bench) (deviceId : DeviceId)
    (step : Fields) :
    charging (uninstall python adb deviceId step) = unguardedUninstall python bench step := by
  unfold uninstall unguardedUninstall
  rw [package_charging]
  dsimp only
  congr 1
  generalize (step.get "package").text python = package
  generalize (step.getD "keep_data" (.bool false)).truthy = keep
  obtain ⟨result, answer, -⟩ :=
    healthy.answers (["uninstall"] ++ (if keep then ["-k"] else []) ++ [package])
      (pyMin 60 adb.budget)
  obtain ⟨works, tells⟩ := healthy.uninstalls keep package _ result answer
  rw [answer, charging_ok_bind, works, tells]
  cases bench.removes keep package with
  | true => rfl
  | false =>
    cases bench.installed package with
    | true => rfl
    | false => cases (step.getD "ignore_missing" (.bool true)).truthy <;> rfl

/-- `_launch` blames no healthy device. -/
theorem launch_spares (healthy : adb.Healthy bench) (deviceId : DeviceId) (step : Fields) :
    charging (launch python adb deviceId step) = false := by
  unfold launch
  rw [package_charging]
  dsimp only
  split
  · rw [shell_spares healthy _ _ _ _ fun _ => rfl, Bool.and_false]
  · rw [shell_spares healthy _ _ _ _ fun _ => rfl, Bool.and_false]

/-- `_run_step` excuses a missing adb and nothing else. -/
theorem runStep_blaming (driver : ApkAnswers) (deviceId : DeviceId) (step : Fields) (op : Json) :
    blaming (target.runStep python driver deviceId step op) =
      charging (target.attempt python driver deviceId step op) := by
  unfold runStep
  cases target.attempt python driver deviceId step op with
  | ok found => rfl
  | error raised => cases raised <;> rfl

/-- **What blames a healthy device in one round.** -/
theorem turn_blaming {answers : Nat → ApkAnswers} {index : Nat}
    (healthy : (answers index).Healthy bench) (deviceId : DeviceId) (captured : Fields)
    (step : Json) :
    blaming (target.turn python deviceId answers index captured step) =
      unguarded python target (answers index) bench step := by
  unfold turn unguarded
  cases (answers index).remaining.le 0 with
  | true => rfl
  | false =>
    rw [if_neg Bool.false_ne_true, Bool.not_false, Bool.true_and]
    cases step with
    | obj fields =>
      simp only [fieldsOf, blaming_ok_bind, blaming_map, runStep_blaming]
      generalize Fields.get fields "op" = op
      unfold attempt
      split
      · exact install_charging python target healthy deviceId fields
      split
      · exact verify_charging python healthy deviceId fields
      split
      · exact uninstall_charging python healthy deviceId fields
      split
      · exact launch_spares python healthy deviceId fields
      split
      · rw [package_charging, shell_spares healthy _ _ _ _ fun _ => rfl, Bool.and_false]
      split
      · rw [package_charging, shell_spares healthy _ _ _ _ fun _ => rfl, Bool.and_false]
      · rfl
    | _ => rfl

end

end ApkTarget

/-! ## Every target -/

/-- A target, and what the device and its host answer during one execution: a function of the
number of the step. -/
inductive Setting
  /-- An android target. -/
  | android (target : AndroidTarget) (session : Except Raised SessionHandle)
      (answers : Nat → AndroidAnswers)
  /-- A web target. -/
  | web (target : WebTarget) (session : Except Raised SessionHandle) (answers : Nat → WebAnswers)
  /-- An apk target, on a device. -/
  | apk (target : ApkTarget) (deviceId : DeviceId) (answers : Nat → ApkAnswers)
      (bench : Nat → Bench)

namespace Setting

variable (python : Python)

/-- `execute` of the target. -/
def execute (setting : Setting) (steps : List Json) : Except Raised Json :=
  match setting with
  | android target session answers => target.execute python session answers steps
  | web target session answers => target.execute python session answers steps
  | apk target deviceId answers _ => target.execute python deviceId answers steps

/-- One round of the loop of `execute`. -/
def turn (setting : Setting) : Nat → Fields → Json → Except Raised Fields :=
  match setting with
  | android target _ answers => target.turn python answers
  | web target _ answers => target.turn python answers
  | apk target deviceId answers _ => target.turn python deviceId answers

/-- The session opens, and at every step the device answers and tells the truth. -/
def Healthy : Setting → Prop
  | android _ session answers =>
    (∃ handle, session = .ok handle) ∧ ∀ index, (answers index).Healthy
  | web _ session answers => (∃ handle, session = .ok handle) ∧ ∀ index, (answers index).Healthy
  | apk _ _ answers bench => ∀ index, (answers index).Healthy (bench index)

/-- The steps that blame a healthy device. -/
def unguarded (setting : Setting) (index : Nat) (step : Json) : Bool :=
  match setting with
  | android target _ answers => target.unguarded python (answers index) step
  | web _ _ answers => WebTarget.unguarded (answers index) step
  | apk target _ answers bench => target.unguarded python (answers index) (bench index) step

end Setting

/-- The scheduler does not quarantine a device on account of an outcome: it is a result, a
`FatalError` or a `RetryableError` without blame, and no worker that handles it turns to the
health monitor. -/
def Outcome.Spares (outcome : Outcome) : Prop :=
  outcome.blamesDevice = false ∧
    ∀ config world after worker draw,
      SchedulerWorld.step config world (.executed worker outcome draw) = some after →
      ∀ index lease reason,
        after.scheduler.workers[worker]? ≠ some (.busy index (.quarantining lease reason))

/-- The scheduler turns to the monitor only about a blaming outcome. -/
theorem Outcome.spares_iff {outcome : Outcome} :
    outcome.Spares ↔ outcome.blamesDevice = false := by
  refine ⟨And.left, fun excused => ⟨excused, ?_⟩⟩
  intro config world after worker draw taken index lease reason waits
  obtain ⟨blames, -⟩ := SchedulerWorld.executed_asks taken waits
  exact Bool.false_ne_true (excused.symm.trans blames)

section
variable (python : Python)

/-- An attempt blames the device exactly if what ended it does. -/
theorem blamesDevice_ended (answer : Except Raised Json) :
    (ended python answer).blamesDevice = blaming answer := by
  cases answer with
  | ok value => rfl
  | error raised => exact raised.blamesDevice_outcome python

/-- An answer blames nobody if it is no exception that does. -/
theorem blaming_eq_false {α : Type} {answer : Except Raised α} :
    blaming answer = false ↔ ∀ raised, answer = .error raised → ¬raised.blames = true := by
  cases answer with
  | ok value => simp
  | error raised => simp

/-- A script spares its device exactly if every step that it reaches does. -/
theorem script_spares_iff {turn : Nat → Fields → Json → Except Raised Fields}
    {steps : List Json} {make : Fields → Json} :
    (ended python (Script.run turn 1 [] steps >>= fun captured => .ok (make captured))).Spares ↔
      ∀ position step captured, steps[position]? = some step →
        Script.Reaches turn 1 [] steps position captured →
        blaming (turn (1 + position) captured step) = false := by
  rw [Outcome.spares_iff, blamesDevice_ended, blaming_map, blaming_eq_false,
    Script.run_spares_iff]
  simp only [blaming_eq_false]

/-- **Which scripts spare a healthy device.** Exactly those that reach no unguarded step. -/
theorem Setting.spares_iff_guarded {setting : Setting} (healthy : setting.Healthy)
    (spec : TaskSpec) :
    (ended python (setting.execute python spec.steps)).Spares ↔
      ∀ position step captured, spec.steps[position]? = some step →
        Script.Reaches (setting.turn python) 1 [] spec.steps position captured →
        setting.unguarded python (1 + position) step = false := by
  cases setting with
  | android target session answers =>
    obtain ⟨⟨handle, rfl⟩, healthy⟩ := healthy
    refine (script_spares_iff python).trans ?_
    simp only [AndroidTarget.turn_blaming python target (healthy _), Setting.unguarded]
    rfl
  | web target session answers =>
    obtain ⟨⟨handle, rfl⟩, healthy⟩ := healthy
    refine (script_spares_iff python).trans ?_
    simp only [WebTarget.turn_blaming python target (healthy _), Setting.unguarded]
    rfl
  | apk target deviceId answers bench =>
    refine (script_spares_iff python).trans ?_
    simp only [ApkTarget.turn_blaming python target (healthy _), Setting.unguarded]
    rfl

end

/-- An interpreter, with plain texts for what it shows. -/
def plainPython : Python where
  showFloat _ := "1.0"
  showText text := "'" ++ text ++ "'"
  reprError _ := "ValueError()"
  showError _ := ""
  upper := String.toUpper
  sleepRefusesNan := true

/-- A driver that answers every call. -/
def calmDriver : AndroidAnswers where
  remaining := 60
  find _ _ := .ok "element"
  click _ := .ok ()
  sendKeys _ _ := .ok ()
  textOf _ := .ok "Ready"
  source := .ok "<hierarchy/>"

/-- A browser that answers every call. -/
def calmBrowser : WebAnswers where
  remaining := 60
  goto _ _ := .ok ()
  click _ _ := .ok ()
  fill _ _ _ := .ok ()
  textOf _ _ := .ok "Ready"
  setHeaders _ := .ok ()
  cookies := .ok []
  setCookies _ := .ok ()
  readStorage _ := .ok none
  live _ := .ok false
  load _ := []
  save _ _ := .ok ()
  token _ credential := .ok credential
  ttlOf _ := .ok none

/-- A package of the system. -/
def systemPackage : String := "com.android.phone"

/-- The adb of a device with room for every build and no package but that one. -/
def calmAdb : ApkAnswers where
  remaining := 60
  budget := 60
  run args _ :=
    if args.head? = some "install" then .ok { returncode := 0, stdout := "Success" }
    else if args.head? = some "uninstall" then
      if args.getLast? = some systemPackage then
        .ok { returncode := 1, stdout := "Failure [DELETE_FAILED_INTERNAL_ERROR]" }
      else .ok { returncode := 1, stdout := "Failure [not installed for 0]" }
    else if args.getLast? = some systemPackage then
      .ok { returncode := 0, stdout := "versionCode=33 minSdk=33" }
    else .ok { returncode := 0, stdout := "Unable to find package" }
  file _ := { isFile := true, digest := .ok "e3b0c442", size := .ok 1 }

/-- A device with the package of the system, whose adb takes every file. -/
def stockBench : Bench where
  installed package := package == systemPackage
  removes _ _ := false
  accepts _ := true

/-- The adb tells the truth about its packages. -/
theorem calmAdb_healthy : calmAdb.Healthy stockBench where
  answers args timeout := by
    simp only [calmAdb]
    split
    · exact ⟨_, rfl, rfl⟩
    · split <;> split <;> exact ⟨_, rfl, rfl⟩
  installs flags path timeout result accepted answer code named := by
    obtain rfl : _ = result := Except.ok.inj answer
    have verdict : classifyInstallOutput { returncode := 0, stdout := "Success" } = none := by
      decide +kernel
    cases verdict.symm.trans named
  declines flags path timeout result declined answer := by cases declined
  dumps package timeout result answer := by
    have known : versionCode "versionCode=33 minSdk=33" = some "33" := by decide +kernel
    have read : intOfText "33" = some 33 := by decide +kernel
    have name : versionName "Unable to find package" = none := by decide +kernel
    have code : versionCode "Unable to find package" = none := by decide +kernel
    by_cases system : package = systemPackage
    · obtain rfl : (⟨0, "versionCode=33 minSdk=33", "", false⟩ : AdbResult) = result := by
        simpa [calmAdb, system] using answer
      simp [stockBench, system, known, read]
    · obtain rfl : (⟨0, "Unable to find package", "", false⟩ : AdbResult) = result := by
        simpa [calmAdb, system] using answer
      simp [stockBench, system, name, code]
  uninstalls keep package timeout result answer := by
    have refusal : contains "not installed"
        "Failure [DELETE_FAILED_INTERNAL_ERROR]".toLower = false := by
      decide +kernel
    have missing : contains "not installed" "Failure [not installed for 0]".toLower = true := by
      decide +kernel
    have last (flags : List String) :
        (["uninstall"] ++ flags ++ [package]).getLast? = some package := List.getLast?_concat
    have head (flags : List String) :
        (["uninstall"] ++ flags ++ [package]).head? = some "uninstall" := rfl
    simp only [calmAdb, head, last] at answer
    by_cases system : package = systemPackage
    · obtain rfl :
          (⟨1, "Failure [DELETE_FAILED_INTERNAL_ERROR]", "", false⟩ : AdbResult) = result := by
        simpa [system] using answer
      simp [stockBench, system, AdbResult.ok, refusal]
    · obtain rfl : (⟨1, "Failure [not installed for 0]", "", false⟩ : AdbResult) = result := by
        simpa [system] using answer
      have other : (package == systemPackage) = false := beq_false_of_ne system
      simp [stockBench, other, AdbResult.ok, missing]

/-- An android target on a healthy device. -/
def calmAndroid : Setting := .android {} (.ok ⟨"session", 1⟩) fun _ => calmDriver

/-- A web target on a healthy device. -/
def calmWeb : Setting := .web { base64 := id } (.ok ⟨"session", 1⟩) fun _ => calmBrowser

/-- An apk target on a healthy device. -/
def calmApk : Setting := .apk {} "serial" (fun _ => calmAdb) fun _ => stockBench

/-- The android driver answers. -/
theorem calmAndroid_healthy : calmAndroid.Healthy :=
  ⟨⟨_, rfl⟩, fun _ => ⟨fun _ _ => rfl, fun _ => rfl, fun _ _ => rfl, fun _ => rfl, rfl⟩⟩

/-- So does the browser. -/
theorem calmWeb_healthy : calmWeb.Healthy :=
  ⟨⟨_, rfl⟩, fun _ => ⟨fun _ _ => rfl, fun _ _ => rfl, fun _ _ _ => rfl, fun _ _ => rfl,
    fun _ => rfl, rfl, fun _ => rfl, fun _ => rfl⟩⟩

/-- A script that taps and waits spares the device. -/
theorem Setting.spares_iff_guarded_wait :
    (ended plainPython (calmAndroid.execute plainPython
      [.obj [("op", .str "tap"), ("id", .str "ok")],
        .obj [("op", .str "wait"), ("seconds", .str "1")]])).Spares := by
  refine (Setting.spares_iff_guarded plainPython calmAndroid_healthy
    { kind := "android", id := "t", steps := [.obj [("op", .str "tap"), ("id", .str "ok")],
        .obj [("op", .str "wait"), ("seconds", .str "1")]] }).mpr ?_
  intro position step captured found reaches
  match position, found with
  | 0, found =>
    cases found
    decide +kernel
  | 1, found =>
    cases found
    decide +kernel

/-- Scripts that take a healthy device out of the pool: a wait that is no number, a step budget
that is no number, a package that was never installed, a version code behind a separator, and a
package of the system that is to be removed. -/
theorem healthy_blamed :
    (calmAndroid.Healthy ∧ calmWeb.Healthy ∧ calmApk.Healthy) ∧
    ¬(ended plainPython (calmAndroid.execute plainPython
      [.obj [("op", .str "wait"), ("seconds", .str "soon")]])).Spares ∧
    ¬(ended plainPython (calmWeb.execute plainPython
      [.obj [("op", .str "click"), ("selector", .str "#a"), ("timeout_s", .str "soon")]])).Spares ∧
    ¬(ended plainPython (calmApk.execute plainPython
      [.obj [("op", .str "verify"), ("package", .str "never.installed")]])).Spares ∧
    ¬(ended plainPython (calmApk.execute plainPython
      [.obj [("op", .str "verify"), ("package", .str systemPackage),
        ("expect_version_code", .str "33\u001f")]])).Spares ∧
    ¬(ended plainPython (calmApk.execute plainPython
      [.obj [("op", .str "uninstall"), ("package", .str systemPackage)]])).Spares := by
  refine ⟨⟨calmAndroid_healthy, calmWeb_healthy, fun _ => calmAdb_healthy⟩, ?_, ?_, ?_, ?_, ?_⟩
  all_goals
    rw [Outcome.spares_iff]
    decide +kernel

end DeviceOrchestrator
