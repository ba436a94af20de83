import DeviceOrchestrator.Core.Adb
import DeviceOrchestrator.Core.Target
import DeviceOrchestrator.Lib.Script

/-!
# The apk target

`ApkTarget.execute` deploys builds with adb and reads back what it says. The exit code of adb is
not the verdict: output is searched for a named failure first and for `Success` after it. Only a
missing adb is caught, so what the conversions and the file system raise is unclassified.
-/
namespace DeviceOrchestrator

/-- `FATAL_INSTALL_CODES`. -/
def fatalInstallCodes : List String :=
  ["INSTALL_FAILED_UPDATE_INCOMPATIBLE", "INSTALL_FAILED_VERSION_DOWNGRADE",
    "INSTALL_FAILED_INVALID_APK", "INSTALL_FAILED_DUPLICATE_PACKAGE",
    "INSTALL_FAILED_CONFLICTING_PROVIDER", "INSTALL_PARSE_FAILED_NO_CERTIFICATES",
    "INSTALL_PARSE_FAILED_MANIFEST_MALFORMED", "INSTALL_PARSE_FAILED_NOT_APK",
    "INSTALL_FAILED_TEST_ONLY"]

/-- `DEVICE_INSTALL_CODES`. -/
def deviceInstallCodes : List String :=
  ["INSTALL_FAILED_INSUFFICIENT_STORAGE", "INSTALL_FAILED_MEDIA_UNAVAILABLE",
    "INSTALL_FAILED_INTERNAL_ERROR", "INSTALL_FAILED_PACKAGE_CHANGED"]

/-- `MISMATCH_INSTALL_CODES`. -/
def mismatchInstallCodes : List String :=
  ["INSTALL_FAILED_NO_MATCHING_ABIS", "INSTALL_FAILED_OLDER_SDK",
    "INSTALL_FAILED_MISSING_SHARED_LIBRARY", "INSTALL_FAILED_CPU_ABI_INCOMPATIBLE"]

/-- What follows the first occurrence of a text that a pattern accepts. -/
def searchAfter (mark : List Char) (pattern : List Char → Option String) :
    List Char → Option String
  | [] => if mark.isEmpty then pattern [] else none
  | char :: rest =>
    if mark.isPrefixOf (char :: rest) then
      (pattern ((char :: rest).drop mark.length)).orElse fun _ => searchAfter mark pattern rest
    else searchAfter mark pattern rest

/-- The longest text at the front whose characters are all of a kind, if it is not empty. -/
def leading (kind : Char → Bool) (chars : List Char) : Option String :=
  let found := chars.takeWhile kind
  if found.isEmpty then none else some (String.ofList found)

/-- `[A-Z_0-9]`. -/
def codeChar (char : Char) : Bool :=
  ('A' ≤ char && char ≤ 'Z') || char = '_' || ('0' ≤ char && char ≤ '9')

/-- `\s*\[([A-Z_0-9]+)`. -/
def bracketed (chars : List Char) : Option String :=
  match chars.dropWhile isSpace with
  | '[' :: rest => leading codeChar rest
  | _ => none

/-- `_FAILURE_RE`. -/
def failureCode (text : String) : Option String :=
  searchAfter "Failure".toList bracketed text.toList

/-- `_VERSION_NAME_RE`. -/
def versionName (text : String) : Option String :=
  searchAfter "versionName=".toList (leading fun char => !isSpace char) text.toList

/-- `_VERSION_CODE_RE`. -/
def versionCode (text : String) : Option String :=
  searchAfter "versionCode=".toList (leading fun char => (decimal? char).isSome) text.toList

/-- `part in text`. -/
def contains (part text : String) : Bool :=
  (searchAfter part.toList (fun _ => some "") text.toList).isSome

/-- `classify_install_output`. -/
def classifyInstallOutput (result : AdbResult) : Option String :=
  match failureCode (result.stdout ++ "\n" ++ result.stderr) with
  | some code => some code
  | none =>
    if contains "Success" result.stdout then none
    else if result.timedOut then some "INSTALL_TIMED_OUT"
    else if !result.ok then some "INSTALL_FAILED_UNKNOWN"
    else some "INSTALL_NO_VERDICT"

/-- `raise_for_install_code`. -/
def raiseForInstallCode (code package deviceId : String) : Raised :=
  if code ∈ fatalInstallCodes then
    .fatal s!"{code} installing {package}: the build is wrong, not the bench"
  else if code ∈ mismatchInstallCodes then
    .retryable s!"{code}: {deviceId} is not a candidate for {package}" false
  else if code ∈ deviceInstallCodes ∨ code = "INSTALL_TIMED_OUT" ∨
      code = "INSTALL_FAILED_UNKNOWN" then
    .retryable s!"{code} installing {package} on {deviceId}" true
  else .retryable s!"{code} installing {package}" false

/-- What the file system says of one path. -/
structure FileAnswers where
  /-- `os.path.isfile`. -/
  isFile : Bool
  /-- `sha256_of`. -/
  digest : Except PyError String
  /-- `os.path.getsize`. -/
  size : Except PyError Nat

/-- What adb and the file system answer during one step, and the time that is left. A step calls
adb at most once. -/
structure ApkAnswers where
  /-- `ctx.remaining_s()` when the step begins. -/
  remaining : Float
  /-- `ctx.remaining_s()` when adb is called. -/
  budget : Float
  /-- `adb.run` on the leased device, with a timeout. -/
  run : List String → Float → Except Raised AdbResult
  /-- The file system. -/
  file : String → FileAnswers

/-- `ApkTarget`. -/
structure ApkTarget where
  /-- `_install_timeout_s`. -/
  installTimeoutS : Float := 180

/-- `os.path.basename`. -/
def basename (path : String) : String :=
  String.ofList ((path.toList.reverse.takeWhile (· ≠ '/')).reverse)

namespace ApkTarget

/-- `_package`. -/
def package (python : Python) (step : Fields) : Except Raised String :=
  let package := step.get "package"
  if package.truthy then .ok (package.text python)
  else
    let shown := (step.get "op").repr python
    .error (.fatal s!"step {shown} needs a package")

/-- `_shell`. -/
def shell (adb : ApkAnswers) (deviceId : DeviceId) (command : String) (args : List String)
    (timeoutS : Json) : Except Raised AdbResult := do
  let seconds ← escaping timeoutS.toFloat
  let result ← adb.run ("shell" :: command :: args) (pyMin seconds (pyMax adb.budget 1))
  if result.timedOut then
    .error (.retryable s!"adb shell {command} timed out on {deviceId}" true)
  else .ok result

/-- The flags of `adb install`. -/
def installFlags (step : Fields) : List String :=
  (if (step.getD "reinstall" (.bool true)).truthy then ["-r"] else []) ++
    (if (step.getD "grant_permissions" (.bool false)).truthy then ["-g"] else []) ++
    (if (step.getD "allow_downgrade" (.bool false)).truthy then ["-d"] else []) ++
    (if (step.getD "allow_test" (.bool false)).truthy then ["-t"] else [])

/-- The path of an `install` step. -/
def installPath (python : Python) (step : Fields) : String :=
  if (step.get "path").truthy then (step.get "path").text python else ""

/-- `_install`. -/
def install (python : Python) (target : ApkTarget) (adb : ApkAnswers) (deviceId : DeviceId)
    (step : Fields) : Except Raised Fields :=
  let path := installPath python step
  if path = "" then .error (.fatal "install step needs a path")
  else if !(adb.file path).isFile then .error (.fatal s!"no APK at {path}")
  else do
    let package :=
      if (step.get "package").truthy then (step.get "package").text python else basename path
    let digest ← escaping (adb.file path).digest
    let seconds ← escaping (step.getD "timeout_s" (.float target.installTimeoutS)).toFloat
    let result ← adb.run (["install"] ++ installFlags step ++ [path]) (pyMin seconds adb.budget)
    match classifyInstallOutput result with
    | some code => .error (raiseForInstallCode code package deviceId)
    | none =>
      let size ← escaping (adb.file path).size
      .ok [("installed", .str package), ("sha256", .str digest), ("bytes", .int size)]

/-- What `_verify` makes of the output of `dumpsys`. -/
def checkVersion (python : Python) (deviceId : DeviceId) (package : String) (step : Fields)
    (name : Option String) (code : Option Int) : Except Raised Fields :=
  let expectedName := step.get "expect_version_name"
  let expectedCode := step.get "expect_version_code"
  let shownName := name.getD "None"
  let shownCode := code.elim "None" toString
  let wantedName := expectedName.text python
  let wantedCode := expectedCode.text python
  let found : Fields := [("package", .str package), ("version_name", name.elim .null .str),
    ("version_code", code.elim .null .int)]
  if expectedName.isNull || name = some wantedName then
    if expectedCode.isNull then .ok found
    else do
      let expected ← escaping expectedCode.toInt
      if code = some expected then .ok found
      else
        .error (.fatal
          s!"{package} is versionCode {shownCode} on {deviceId}, expected {wantedCode}")
  else .error (.fatal s!"{package} is {shownName} on {deviceId}, expected {wantedName}")

/-- `_verify`. -/
def verify (python : Python) (adb : ApkAnswers) (deviceId : DeviceId) (step : Fields) :
    Except Raised Fields := do
  let package ← ApkTarget.package python step
  let result ← shell adb deviceId "dumpsys" ["package", package]
    (step.getD "timeout_s" (.float 20))
  match versionName result.stdout, versionCode result.stdout with
  | none, none =>
    .error (.retryable s!"{package} is not installed on {deviceId} after a successful install"
      true)
  | name, none => checkVersion python deviceId package step name none
  | name, some digits =>
    let code ← escaping ((intOfText digits).elim (.error .valueError) .ok)
    checkVersion python deviceId package step name (some code)

/-- `_uninstall`. -/
def uninstall (python : Python) (adb : ApkAnswers) (deviceId : DeviceId) (step : Fields) :
    Except Raised Fields := do
  let package ← ApkTarget.package python step
  let keep := if (step.getD "keep_data" (.bool false)).truthy then ["-k"] else []
  let result ← adb.run (["uninstall"] ++ keep ++ [package]) (pyMin 60 adb.budget)
  let missing := contains "not installed" (result.stdout ++ result.stderr).toLower
  if !result.ok && !(missing && (step.getD "ignore_missing" (.bool true)).truthy) then
    .error (.retryable s!"uninstall {package} failed on {deviceId}" true)
  else .ok [("uninstalled", .str package), ("was_present", .bool !missing)]

/-- `_launch`. -/
def launch (python : Python) (adb : ApkAnswers) (deviceId : DeviceId) (step : Fields) :
    Except Raised Fields := do
  let package ← ApkTarget.package python step
  let activity := step.get "activity"
  let _ ←
    if activity.truthy then
      shell adb deviceId "am" ["start", "-n", package ++ "/" ++ activity.text python] (.float 30)
    else
      shell adb deviceId "monkey"
        ["-p", package, "-c", "android.intent.category.LAUNCHER", "1"] (.float 30)
  .ok [("launched", .str package)]

/-- The `try` of `_run_step`; an op that it does not know falls through. -/
def attempt (python : Python) (target : ApkTarget) (adb : ApkAnswers) (deviceId : DeviceId)
    (step : Fields) (op : Json) : Except Raised Fields :=
  if op.isText "install" then target.install python adb deviceId step
  else if op.isText "verify" then verify python adb deviceId step
  else if op.isText "uninstall" then uninstall python adb deviceId step
  else if op.isText "launch" then launch python adb deviceId step
  else if op.isText "stop" then do
    let package ← ApkTarget.package python step
    let _ ← shell adb deviceId "am" ["force-stop", package] (.float 30)
    .ok []
  else if op.isText "clear" then do
    let package ← ApkTarget.package python step
    let _ ← shell adb deviceId "pm" ["clear", package] (.float 30)
    .ok []
  else
    let shown := op.repr python
    .error (.fatal s!"unknown apk op: {shown}")

/-- `_run_step`. -/
def runStep (python : Python) (target : ApkTarget) (adb : ApkAnswers) (deviceId : DeviceId)
    (step : Fields) (op : Json) : Except Raised Fields :=
  match target.attempt python adb deviceId step op with
  | .error (.adbNotAvailable message) => .error (.retryable message false)
  | answer => answer

/-- One round of the loop of `execute`. -/
def turn (python : Python) (target : ApkTarget) (deviceId : DeviceId) (answers : Nat → ApkAnswers)
    (index : Nat) (captured : Fields) (step : Json) : Except Raised Fields :=
  if (answers index).remaining.le 0 then .error (.retryable "ran out of time mid-deploy" false)
  else do
    let fields ← fieldsOf step
    let found ← target.runStep python (answers index) deviceId fields (fields.get "op")
    .ok (captured.update found)

/-- `execute`, when the deadline does not cut it short. -/
def execute (python : Python) (target : ApkTarget) (deviceId : DeviceId)
    (answers : Nat → ApkAnswers) (steps : List Json) : Except Raised Json := do
  let captured ← Script.run (target.turn python deviceId answers) 1 [] steps
  .ok (.obj [("steps", .int steps.length), ("device", .str deviceId), ("captured", .obj captured)])

end ApkTarget

end DeviceOrchestrator
