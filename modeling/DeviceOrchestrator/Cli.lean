import Mathlib.Data.List.Sort
import DeviceOrchestrator.Core.Intake
import DeviceOrchestrator.Core.Scheduler

/-!
# Deploying a build to every phone

`cmd_deploy` submits one task for each device that is not a browser slot, pinned by
`selector.device_id`, waits for the scheduler to go quiet and looks every task up by its id. Nothing
suspends between the snapshot and the last submission. Printing and the `--fake` bench are left out.
-/
namespace DeviceOrchestrator

/-- `DeviceRegistry.snapshot`, without what is printed of each device. -/
def Registry.snapshot (registry : Registry) : List Device :=
  registry.devices.items.insertionSort fun device other => device.id ≤ other.id

/-- `Scheduler.get`. -/
def Scheduler.get (scheduler : Scheduler) (taskId : TaskId) : Option TaskRecord :=
  (scheduler.table taskId).bind (scheduler.records[·]?)

/-- The arguments of `deploy` that its tasks depend on. -/
structure DeployArgs where
  /-- Path to the build. -/
  apk : String
  /-- `applicationId`, needed to verify. -/
  package : Option String := none
  /-- Fail unless `versionName` matches. -/
  expectVersion : Option String := none
  /-- `adb install -g`. -/
  grant : Bool := false
  /-- Start it after the install. -/
  launch : Bool := false
  /-- The deadline of one attempt. -/
  timeout : Float := 300
  /-- Attempts for each device. -/
  attempts : Int := 2

namespace DeployArgs

/-- A string argument that is given and not empty. -/
def given (argument : Option String) : Option String := argument.filter (· ≠ "")

/-- The `install` step. -/
def installStep (args : DeployArgs) : Fields :=
  [("op", .str "install"), ("path", .str args.apk), ("package", args.package.elim .null .str),
    ("reinstall", .bool true), ("grant_permissions", .bool args.grant)]

/-- The `verify` step. -/
def verifyStep (args : DeployArgs) (package : String) : Fields :=
  [("op", .str "verify"), ("package", .str package)] ++
    match given args.expectVersion with
    | some version => [("expect_version_name", .str version)]
    | none => []

/-- The steps of every task of a rollout. -/
def steps (args : DeployArgs) : List Json :=
  .obj args.installStep ::
    match given args.package with
    | none => []
    | some package =>
      .obj (args.verifyStep package) ::
        if args.launch then [.obj [("op", .str "launch"), ("package", .str package)]] else []

/-- The task of one device, as it is handed to `TaskSpec.from_dict`. -/
def task (args : DeployArgs) (deviceId : DeviceId) : Fields :=
  [("kind", .str "apk"), ("steps", .arr args.steps),
    ("selector", .obj [("device_id", .str deviceId)]), ("timeout_s", .float args.timeout),
    ("max_attempts", .int args.attempts)]

/-- The specification of one device. -/
def spec (args : DeployArgs) (minted : TaskId) (deviceId : DeviceId) : TaskSpec where
  kind := "apk"
  steps := args.steps
  id := minted
  selector := { deviceId := .str deviceId }
  timeoutS := args.timeout
  maxAttempts := args.attempts

/-- `TaskSpec.from_dict` accepts the task of every device. -/
theorem fromDict_task (args : DeployArgs) (python : Python) (minted : TaskId)
    (deviceId : DeviceId) :
    TaskSpec.fromDict python minted (args.task deviceId) = .ok (args.spec minted deviceId) :=
  rfl

end DeployArgs

namespace Registry

/-- The devices of a rollout. -/
def deployTargets (registry : Registry) : List DeviceId :=
  (registry.snapshot.filter fun device => device.transport ≠ "virtual").map Device.id

/-- **A rollout is for every phone.** -/
theorem mem_deployTargets {registry : Registry} {deviceId : DeviceId} :
    deviceId ∈ registry.deployTargets ↔
      ∃ device, registry.get deviceId = some device ∧ device.transport ≠ "virtual" := by
  simp only [deployTargets, snapshot, List.mem_map, List.mem_filter, List.mem_insertionSort,
    decide_eq_true_eq, get]
  constructor
  · rintro ⟨device, ⟨member, phone⟩, rfl⟩
    exact ⟨device, Keyed.get?_key member, phone⟩
  · rintro ⟨device, found, phone⟩
    exact ⟨device, ⟨List.mem_of_find?_eq_some found, phone⟩, Keyed.key_of_get? found⟩

end Registry

/-- One `submit` after the other. -/
def Scheduler.submitAll (config : SchedulerConfig) (scheduler : Scheduler)
    (submissions : List (TaskSpec × String)) : Scheduler :=
  submissions.foldl (fun scheduler submission =>
    scheduler.submit config submission.1 submission.2) scheduler

/-- `cmd_deploy`, from the snapshot to the last submission; `mint` and `link` are the ids and the
correlation ids that are minted. -/
def cmdDeploy (config : SchedulerConfig) (args : DeployArgs) (mint : DeviceId → TaskId)
    (link : DeviceId → String) (world : SchedulerWorld) : SchedulerWorld :=
  world.withScheduler (world.scheduler.submitAll config
    (world.registry.deployTargets.map fun deviceId =>
      (args.spec (mint deviceId) deviceId, link deviceId)))

/-- The exit code of `cmd_deploy`, from the report on. -/
def cmdDeployCode (targets : List DeviceId) (mint : DeviceId → TaskId) (scheduler : Scheduler) :
    Nat :=
  if targets.isEmpty then 2
  else if targets.all fun deviceId =>
    (scheduler.get (mint deviceId)).any (·.state = .succeeded) then 0
  else 1

end DeviceOrchestrator
