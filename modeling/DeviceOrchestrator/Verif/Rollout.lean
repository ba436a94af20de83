import DeviceOrchestrator.Cli
import DeviceOrchestrator.Targets.Apk
import DeviceOrchestrator.Verif.Attempts
import DeviceOrchestrator.Verif.Verdicts

/-!
# What a green rollout means

`cmd_deploy` exits with 0 only if the task of every phone succeeded. Four facts lead from there to
the phones: the attempts of a task stay on the device its selector pins (`Pinned`), the last attempt
of a running record is on the device that its worker holds (`Current`), what a succeeded record
returns is what `execute` made of that device's answers (`Backed`), and `execute` returns only if
every step did. The apk target takes part through `Served`: what a worker hears of a task of kind
apk is a value of `execute` on the leased device.
-/
namespace DeviceOrchestrator

/-- The devices of the attempts. -/
def TaskRecord.devices (record : TaskRecord) : List DeviceId :=
  record.attempts.map Attempt.deviceId

/-- Every attempt is on the device that the selector names, if it names one. -/
def TaskRecord.Pinned (record : TaskRecord) : Prop :=
  record.spec.selector.deviceId.truthy = true →
    ∀ deviceId ∈ record.devices, record.spec.selector.deviceId.isText deviceId = true

/-- A device that matches a selector is the one it names. -/
theorem Device.pinned_of_matches {device : Device} {selector : DeviceSelector}
    (fits : device.matches selector = .ok true) (names : selector.deviceId.truthy = true) :
    selector.deviceId.isText device.id = true := by
  by_contra other
  rw [Bool.not_eq_true] at other
  simp [Device.matches, names, other] at fits

/-- Pinning depends on the specification and the devices alone. -/
theorem TaskRecord.Pinned.of_same {record new : TaskRecord} (pinned : record.Pinned)
    (spec : new.spec = record.spec) (devices : new.devices = record.devices) : new.Pinned := by
  unfold TaskRecord.Pinned
  rw [spec, devices]
  exact pinned

namespace SchedulerWorld

open Scheduler

/-- The attempts of every record are where its selector pins them. -/
def Steered (scheduler : Scheduler) : Prop := ∀ record ∈ scheduler.records, record.Pinned

variable {config : SchedulerConfig} {world after : SchedulerWorld} {action : SchedulerAction}

section
variable {scheduler after : Scheduler} {worker index : Nat} {record new : TaskRecord}

/-- Leaving the records alone. -/
theorem Steered.of_eq (steered : Steered scheduler) (records : after.records = scheduler.records) :
    Steered after := by
  unfold Steered
  rw [records]
  exact steered

/-- Rewriting one record. -/
theorem Steered.of_set (steered : Steered scheduler)
    (records : after.records = scheduler.records.set index new) (pinned : new.Pinned) :
    Steered after := by
  intro record member
  rw [records] at member
  rcases List.mem_or_eq_of_mem_set member with old | rfl
  · exact steered record old
  · exact pinned

/-- `_requeue` begins no attempt. -/
theorem Steered.requeue (steered : Steered scheduler)
    (known : scheduler.records[index]? = some record) {lease : Option Lease}
    (went : Requeue scheduler worker index record lease after) : Steered after := by
  have pinned := steered record (List.mem_of_getElem? known)
  cases went with
  | exhausted error spent => exact steered.of_set rfl (pinned.of_same rfl rfl)
  | delayed delay left small => exact steered.of_set rfl (pinned.of_same rfl rfl)
  | overflow left large => exact steered.of_eq (records_unwind _ _ _ _)

end

/-- A lease is for a device that the selector allows. -/
theorem steered_leased (steered : Steered world.scheduler) {worker token : Nat}
    (taken : step config world (.leased worker token) = some after) : Steered after.scheduler := by
  simp only [SchedulerWorld.step] at taken
  split at taken
  · rename_i index record found
    obtain ⟨-, known⟩ := at?_eq_some.mp found
    split at taken
    · rename_i device free
      obtain ⟨-, -, -, fits⟩ := Registry.findFree_some free
      split at taken
      · cases taken
      · obtain rfl := Option.some.inj taken
        rw [startAttempt, announce_eq known]
        refine steered.of_set rfl fun names deviceId member => ?_
        simp only [TaskRecord.devices, List.map_append, List.map_cons, List.map_nil,
          List.mem_append, List.mem_singleton] at member
        rcases member with earlier | rfl
        · exact steered record (List.mem_of_getElem? known) names deviceId earlier
        · exact Device.pinned_of_matches fits names
    · cases taken
  · cases taken

/-- **Every attempt stays on the device that its task is pinned to.** -/
theorem steered_step (steered : Steered world.scheduler)
    (taken : step config world action = some after) : Steered after.scheduler := by
  have pinned : ∀ {index : Nat} {record : TaskRecord},
      world.scheduler.records[index]? = some record → record.Pinned :=
    fun known => steered _ (List.mem_of_getElem? known)
  cases step_effect taken with
  | submit spec correlationId =>
    intro record member
    have added : record ∈ world.scheduler.records ∨ record.attempts = [] := by
      simp only [withScheduler, Scheduler.submit] at member
      split at member
      · rcases List.mem_append.mp member with old | new
        · exact .inl old
        · exact .inr (by rw [List.mem_singleton.mp new])
      · rcases List.mem_append.mp member with old | new
        · exact .inl old
        · exact .inr (by rw [List.mem_singleton.mp new])
    rcases added with old | unused
    · exact steered record old
    · intro _ deviceId visited
      simp [TaskRecord.devices, unused] at visited
  | start =>
    simp only [withScheduler, Scheduler.start]
    split <;> exact steered.of_eq rfl
  | stop =>
    simp only [withScheduler, Scheduler.stop]
    split <;> exact steered.of_eq rfl
  | stopped call stopping => exact steered.of_eq rfl
  | pill worker rest idle head => exact steered.of_eq rfl
  | take worker taskId rest idle head =>
    have went := takeTask_cases world.registry worker taskId rest world.scheduler
    simp only [withScheduler]
    generalize world.scheduler.takeTask world.registry worker taskId rest = after at went ⊢
    cases went with
    | skipped skips => exact steered.of_eq (records_leave _ _)
    | raised index record error named known unskipped raised =>
      exact steered.of_eq (records_leave _ _)
    | abandoned index record error named known unskipped =>
      exact steered.of_set rfl ((pinned known).of_same rfl rfl)
    | acquiring index record named known unskipped =>
      exact steered.of_set rfl (pinned known)
  | leased worker token index record device attempts busy known free fresh length =>
    exact steered_leased steered taken
  | leaseTimeout worker draw index record after busy known went => exact steered.requeue known went
  | leaseError worker index record error busy known raised =>
    exact steered.of_eq (records_leave _ _)
  | sinkReturned worker index point record after busy known went =>
    cases point <;> cases went
    · exact steered.of_eq (records_leave _ _)
    · exact steered.of_eq rfl
    · exact steered.of_eq (records_unwind _ _ _ _)
    · exact steered.of_eq (records_unwind _ _ _ _)
    · exact steered.of_eq (records_leave _ _)
  | sinkRaised worker index point record after busy known went =>
    obtain ⟨lease, rfl⟩ := sinkRaised_unwind went
    exact steered.of_eq (records_unwind _ _ _ _)
  | executed worker outcome draw index lease attempt record ended after busy known same went =>
    have kept : ended.Pinned := by
      rw [same]
      exact (pinned known).of_same rfl (record.endAttempt_deviceIds _ _)
    obtain ⟨bound, -⟩ := List.getElem?_eq_some_iff.mp known
    cases went with
    | succeeded value => exact steered.of_set rfl (kept.of_same rfl rfl)
    | rejected message => exact steered.of_set rfl (kept.of_same rfl rfl)
    | blamed outcome reason wired blames online => exact steered.of_set rfl kept
    | requeued outcome after fails excused went =>
      let middle : Scheduler :=
        { world.scheduler with records := world.scheduler.records.set index ended }
      have first : Steered middle := steered.of_set rfl kept
      have entered : middle.records[index]? = some ended := by
        simp [middle, bound]
      exact first.requeue entered went
  | quarantined worker draw index lease reason record after busy known went =>
    exact steered.requeue known went
  | quarantineRaised worker index lease reason record busy known =>
    exact steered.of_set rfl (pinned known)
  | releasedQuietly worker index lease record busy known pending =>
    exact steered.of_eq (records_leave _ _)
  | released worker index lease record busy known settled =>
    exact steered.of_set rfl (pinned known)
  | retryDue position retry found => exact steered.of_eq (by simp [withScheduler])
  | others registry => exact steered

end SchedulerWorld

/-- Only a target that returns makes a record SUCCEEDED. -/
theorem Move.succeeds {record new : TaskRecord} {point : Point} {outcome : Option Outcome}
    {next : Option Point} {announced : Bool}
    (move : Move record point outcome new next announced) (live : record.state ≠ .succeeded)
    (succeeds : new.state = .succeeded) : ∃ lease index value,
      point = .executing lease index ∧ outcome = some (.result value) ∧
      new = { record.endAttempt index none with
        state := .succeeded, result := some value, error := none } := by
  have requeues : ∀ {old : TaskRecord} {lease : Option Lease},
      Requeues old lease new next announced → old.state = record.state → False := by
    intro old lease went same
    cases went with
    | exhausted error spent => cases succeeds
    | delayed delay left => cases succeeds
    | overflow left => exact live (same.symm.trans succeeds)
  cases move with
  | succeeded lease index value => exact ⟨lease, index, value, rfl, rfl, rfl⟩
  | leased | rejected => cases succeeds
  | timedOut went | quarantined lease reason went => exact (requeues went rfl).elim
  | requeued lease index outcome fails message went => exact (requeues went rfl).elim
  | blamed lease index outcome fails message reason => exact absurd succeeds live
  | _ => exact absurd succeeds live

/-- No target ends. -/
def SchedulerAction.quiet : SchedulerAction → Bool
  | .executed _ _ _ => false
  | _ => true

/-- What a record of kind apk returned is what `execute` made of the answers of the device that
its last attempt was on. -/
def TaskRecord.Backed (python : Python) (target : ApkTarget) (record : TaskRecord) : Prop :=
  ∃ done attempt value answers, record.attempts = done ++ [attempt] ∧
    attempt.ended = true ∧ attempt.error = none ∧ record.result = some value ∧
    target.execute python attempt.deviceId answers record.spec.steps = .ok value

namespace SchedulerWorld

open Scheduler

/-- What a worker hears of a task of kind apk is a value that `execute` returned on the device it
holds. -/
def Served (python : Python) (target : ApkTarget) (world : SchedulerWorld) :
    SchedulerAction → Prop
  | .executed worker (.result value) _ => ∀ index lease attempt record,
    world.at? worker = some (index, .executing lease attempt, record) →
    record.spec.kind = "apk" →
    ∃ answers, target.execute python lease.deviceId answers record.spec.steps = .ok value
  | _ => True

variable {config : SchedulerConfig} {world after : SchedulerWorld} {action : SchedulerAction}
variable {python : Python} {target : ApkTarget}

/-- Ids are distinct, nothing raises, and the apk target is the one behind its tasks. -/
def Serving (python : Python) (target : ApkTarget) (world : SchedulerWorld)
    (action : SchedulerAction) : Prop :=
  Distinct world action ∧ Served python target world action

/-- Until a target ends there is nothing to serve. -/
theorem Serving.of_quiet (quiet : Distinct world action ∧ action.quiet = true) :
    Serving python target world action := by
  refine ⟨quiet.1, ?_⟩
  cases action with
  | executed worker outcome draw => cases quiet.2
  | _ => exact trivial

/-- What the worker of an action heard. -/
theorem outcome_result {worker : Nat} {value : Json}
    (heard : action.outcome? worker = some (.result value)) :
    ∃ draw, action = .executed worker (.result value) draw := by
  cases action with
  | executed other outcome draw =>
    simp only [SchedulerAction.outcome?] at heard
    split at heard
    · rename_i same
      cases heard
      exact ⟨draw, by rw [same]⟩
    · cases heard
  | _ => cases heard

/-- Every succeeded record of kind apk is backed. -/
def Proven (python : Python) (target : ApkTarget) (scheduler : Scheduler) : Prop :=
  ∀ (index : Nat) (record : TaskRecord), scheduler.records[index]? = some record →
    record.spec.kind = "apk" → record.state = .succeeded → record.Backed python target

/-- The move that makes a record succeed backs it. -/
theorem backed_move {worker index : Nat} {point : Point} {record new : TaskRecord}
    {next : Option Point} {announced : Bool}
    (busy : world.scheduler.workers[worker]? = some (.busy index point))
    (known : world.scheduler.records[index]? = some record)
    (current : Current record (some point))
    (move : Move record point (action.outcome? worker) new next announced)
    (served : Served python target world action) (live : record.state ≠ .succeeded)
    (apk : new.spec.kind = "apk") (succeeds : new.state = .succeeded) :
    new.Backed python target := by
  obtain ⟨lease, position, value, rfl, heard, rfl⟩ := move.succeeds live succeeds
  obtain ⟨draw, rfl⟩ := outcome_result heard
  obtain ⟨done, attempt, attempts, rfl, held⟩ := current lease position (.inr rfl)
  obtain ⟨answers, returned⟩ :=
    served index lease done.length record (at?_eq_some.mpr ⟨busy, known⟩) apk
  refine ⟨done, { attempt with ended := true, error := none }, value, answers,
    Filed.ended attempts none, rfl, rfl, rfl, ?_⟩
  rw [← held] at returned
  exact returned

/-- **A task of kind apk succeeds only on the word of its device.** -/
theorem proven_run (run : Transition.Run (step config) (Serving python target) {} world) :
    Proven python target world.scheduler := by
  refine run.invariant (fun world => Proven python target world.scheduler)
    (fun index record known => by simp at known) ?_
  rintro state action next earlier proven ⟨distinct, served⟩ taken
  have plain : Transition.Run (step config) Distinct {} state := earlier.mono fun _ may => may.1
  have attended := attended_run plain
  intro index record known apk succeeds
  cases deed attended (accounted plain) distinct taken with
  | works worker held point old new next announced busy there move table records workers tokens
      published sole release =>
    rw [records] at known
    rcases Slots.getElem?_rewritten known with ⟨rfl, rfl⟩ | ⟨-, before⟩
    · cases active : point.active with
      | true =>
        have live : old.state ≠ .succeeded := by
          rw [attended.expected worker index point old busy active there]
          intro ended
          have unended := point.expects_live
          rw [ended] at unended
          cases unended
        exact backed_move busy there
          ((current_run plain index old there).held worker point busy active) move served live
          apk succeeds
      | false =>
        obtain ⟨rfl, -, -⟩ := move.idle active
        exact proven index record there apk succeeds
    · exact proven index record before apk succeeds
  | takes worker held old new next announced idle waits there entry table records workers tokens
      published silent =>
    rw [records] at known
    rcases Slots.getElem?_rewritten known with ⟨rfl, rfl⟩ | ⟨-, before⟩
    · have pending := attended.waits index old there waits
      cases entry with
      | abandoned error => cases succeeds
      | _ => rw [pending] at succeeds; cases succeeds
    · exact proven index record before apk succeeds
  | submits new unused fresh accepted table records workers published silent =>
    rw [records] at known
    rcases Slots.getElem?_concat known with ⟨rfl, rfl⟩ | ⟨-, before⟩
    · rcases accepted with ⟨state, -⟩ | ⟨state, -⟩ <;> rw [state] at succeeds <;> cases succeeds
    · exact proven index record before apk succeeds
  | rest table records workers holders tokens published silent =>
    rw [records] at known
    exact proven index record known apk succeeds

end SchedulerWorld

namespace ApkTarget

variable {python : Python} {target : ApkTarget} {adb : ApkAnswers} {deviceId : DeviceId}
variable {step fields : Fields} {value : Json}

/-- A computation that returns has returned at each of its stages. -/
theorem bind_ok {Value Next : Type} {first : Except Raised Value}
    {next : Value → Except Raised Next} {last : Next} (returned : first >>= next = .ok last) :
    ∃ value, first = .ok value ∧ next value = .ok last := by
  cases first with
  | error raised => cases returned
  | ok value => exact ⟨value, rfl, returned⟩

/-- A step that returns was tried and did not raise. -/
theorem runStep_ok {op : Json}
    (returned : target.runStep python adb deviceId step op = .ok fields) :
    target.attempt python adb deviceId step op = .ok fields := by
  unfold runStep at returned
  split at returned
  · cases returned
  · exact returned

/-- A round that returns has run its step. -/
theorem turn_ok {answers : Nat → ApkAnswers} {index : Nat} {captured after : Fields}
    (returned : target.turn python deviceId answers index captured (.obj step) = .ok after) :
    ∃ found, target.attempt python (answers index) deviceId step (step.get "op") = .ok found := by
  unfold turn at returned
  split at returned
  · cases returned
  · obtain ⟨fields, found, returned⟩ := bind_ok returned
    cases found
    obtain ⟨found, ran, -⟩ := bind_ok returned
    exact ⟨found, runStep_ok ran⟩

/-- An install that returns had a verdict. -/
theorem install_ok (returned : target.install python adb deviceId step = .ok fields) :
    ∃ result seconds, adb.run (["install"] ++ installFlags step ++ [installPath python step])
      seconds = .ok result ∧ classifyInstallOutput result = none := by
  unfold install at returned
  simp only at returned
  split at returned
  · cases returned
  · split at returned
    · cases returned
    · obtain ⟨digest, -, returned⟩ := bind_ok returned
      obtain ⟨seconds, -, returned⟩ := bind_ok returned
      obtain ⟨result, answered, returned⟩ := bind_ok returned
      split at returned
      · cases returned
      · exact ⟨result, _, answered, ‹_›⟩

/-- A shell command that returns was answered by adb. -/
theorem shell_ok {command : String} {args : List String} {timeoutS : Json} {result : AdbResult}
    (returned : shell adb deviceId command args timeoutS = .ok result) :
    ∃ seconds, adb.run ("shell" :: command :: args) seconds = .ok result := by
  obtain ⟨seconds, -, returned⟩ := bind_ok returned
  obtain ⟨answer, answered, returned⟩ := bind_ok returned
  split at returned
  · cases returned
  · cases returned
    exact ⟨_, answered⟩

/-- A check that passes found the name it asks for. -/
theorem checkVersion_ok {package : String} {name : Option String} {code : Option Int}
    (returned : checkVersion python deviceId package step name code = .ok fields) :
    (step.get "expect_version_name").isNull = true ∨
      name = some ((step.get "expect_version_name").text python) := by
  unfold checkVersion at returned
  simp only at returned
  split at returned
  · rename_i passed
    simpa using passed
  · cases returned

/-- A verification that returns has read the version from the device. -/
theorem verify_ok {package : String} (named : ApkTarget.package python step = .ok package)
    (returned : verify python adb deviceId step = .ok fields) :
    ∃ result seconds, adb.run ["shell", "dumpsys", "package", package] seconds = .ok result ∧
      ((step.get "expect_version_name").isNull = true ∨
        versionName result.stdout = some ((step.get "expect_version_name").text python)) := by
  obtain ⟨found, same, returned⟩ := bind_ok returned
  obtain rfl := Except.ok.inj (named.symm.trans same)
  obtain ⟨result, asked, returned⟩ := bind_ok returned
  obtain ⟨seconds, answered⟩ := shell_ok asked
  refine ⟨result, seconds, answered, ?_⟩
  split at returned
  · cases returned
  · exact checkVersion_ok returned
  · obtain ⟨code, -, returned⟩ := bind_ok returned
    exact checkVersion_ok returned

/-- A launch without an activity that returns has started the package. -/
theorem launch_ok {package : String} (named : ApkTarget.package python step = .ok package)
    (plain : (step.get "activity").truthy = false)
    (returned : launch python adb deviceId step = .ok fields) :
    ∃ result seconds, adb.run ["shell", "monkey", "-p", package, "-c",
      "android.intent.category.LAUNCHER", "1"] seconds = .ok result := by
  obtain ⟨found, same, returned⟩ := bind_ok returned
  obtain rfl := Except.ok.inj (named.symm.trans same)
  simp only [plain, Bool.false_eq_true, ↓reduceIte] at returned
  obtain ⟨result, asked, -⟩ := bind_ok returned
  obtain ⟨seconds, answered⟩ := shell_ok asked
  exact ⟨result, seconds, answered⟩

end ApkTarget

namespace DeployArgs

/-- **What adb told of a device on which the rollout is done**: it called the install a success and
named no failure, and with a package `dumpsys` showed the version asked for and the launch was
answered. -/
structure Deployed (args : DeployArgs) (answers : Nat → ApkAnswers) : Prop where
  /-- The install. -/
  installed : ∃ result seconds, (answers 1).run
      (["install", "-r"] ++ (if args.grant then ["-g"] else []) ++ [args.apk]) seconds =
        .ok result ∧
    failureCode result.blob = none ∧ contains "Success" result.stdout = true
  /-- The version. -/
  verified : ∀ package ∈ given args.package, ∃ result seconds,
    (answers 2).run ["shell", "dumpsys", "package", package] seconds = .ok result ∧
      ∀ version ∈ given args.expectVersion, versionName result.stdout = some version
  /-- The launch. -/
  launched : ∀ package ∈ given args.package, args.launch = true → ∃ result seconds,
    (answers 3).run ["shell", "monkey", "-p", package, "-c",
      "android.intent.category.LAUNCHER", "1"] seconds = .ok result

variable {python : Python} {target : ApkTarget} {args : DeployArgs} {deviceId : DeviceId}
variable {answers : Nat → ApkAnswers} {value : Json}

/-- A path that is given is the path. -/
theorem installPath_eq (args : DeployArgs) (python : Python) :
    ApkTarget.installPath python args.installStep = args.apk := by
  have found : args.installStep.get "path" = .str args.apk := rfl
  unfold ApkTarget.installPath
  rw [found]
  by_cases empty : args.apk = "" <;> simp [Json.truthy, Json.text, empty]

/-- A rollout reinstalls, and grants permissions if it is told to. -/
theorem installFlags_eq (args : DeployArgs) :
    ApkTarget.installFlags args.installStep = ["-r"] ++ if args.grant then ["-g"] else [] := by
  cases granted : args.grant <;>
    simp [ApkTarget.installFlags, installStep, Fields.getD, List.lookup_cons, Json.truthy, granted]

/-- A given package is found in a step. -/
theorem package_ok {package : String} {step : Fields} (given : package ∈ given args.package)
    (found : step.get "package" = .str package) :
    ApkTarget.package python step = .ok package := by
  obtain ⟨-, nonempty⟩ := Option.mem_filter_iff.mp given
  have truthy : (Json.str package).truthy = true := by simpa [Json.truthy] using nonempty
  unfold ApkTarget.package
  simp only [found, truthy, ↓reduceIte]
  rfl

/-- The first step installs. -/
theorem installed_of_turn {captured after : Fields}
    (turned : target.turn python deviceId answers 1 captured (.obj args.installStep) = .ok after) :
    ∃ result seconds, (answers 1).run
      (["install", "-r"] ++ (if args.grant then ["-g"] else []) ++ [args.apk]) seconds =
        .ok result ∧
    failureCode result.blob = none ∧ contains "Success" result.stdout = true := by
  obtain ⟨found, tried⟩ := ApkTarget.turn_ok turned
  have installs : target.install python (answers 1) deviceId args.installStep = .ok found := tried
  obtain ⟨result, seconds, answered, verdict⟩ := ApkTarget.install_ok installs
  rw [installPath_eq, installFlags_eq] at answered
  exact ⟨result, seconds, answered, (classifyInstallOutput_none_iff result).mp verdict⟩

/-- The second verifies. -/
theorem verified_of_turn {package : String} (given_ : package ∈ given args.package)
    {captured after : Fields}
    (turned : target.turn python deviceId answers 2 captured (.obj (args.verifyStep package)) =
      .ok after) :
    ∃ result seconds, (answers 2).run ["shell", "dumpsys", "package", package] seconds =
        .ok result ∧
      ∀ version ∈ given args.expectVersion, versionName result.stdout = some version := by
  obtain ⟨found, tried⟩ := ApkTarget.turn_ok turned
  have verifies : ApkTarget.verify python (answers 2) deviceId (args.verifyStep package) =
      .ok found := tried
  obtain ⟨result, seconds, answered, checked⟩ :=
    ApkTarget.verify_ok (package_ok given_ rfl) verifies
  refine ⟨result, seconds, answered, fun version asked => ?_⟩
  have expected : (args.verifyStep package).get "expect_version_name" = .str version := by
    simp only [verifyStep, Option.mem_def.mp asked]
    rfl
  rw [expected] at checked
  rcases checked with missing | shown
  · cases missing
  · exact shown

/-- The third launches. -/
theorem launched_of_turn {package : String} (given_ : package ∈ given args.package)
    {captured after : Fields}
    (turned : target.turn python deviceId answers 3 captured
      (.obj [("op", .str "launch"), ("package", .str package)]) = .ok after) :
    ∃ result seconds, (answers 3).run ["shell", "monkey", "-p", package, "-c",
      "android.intent.category.LAUNCHER", "1"] seconds = .ok result := by
  obtain ⟨found, tried⟩ := ApkTarget.turn_ok turned
  have launches : ApkTarget.launch python (answers 3) deviceId
      [("op", .str "launch"), ("package", .str package)] = .ok found := tried
  exact ApkTarget.launch_ok (package_ok given_ rfl) rfl launches

/-- **The steps of a rollout return only if adb told so.** -/
theorem deployed_of_execute
    (returned : target.execute python deviceId answers args.steps = .ok value) :
    args.Deployed answers := by
  obtain ⟨captured, ran, -⟩ := ApkTarget.bind_ok returned
  unfold steps at ran
  obtain ⟨first, installs, ran⟩ := Script.run_cons_ok.mp ran
  have installed := installed_of_turn installs
  cases named : given args.package with
  | none => exact ⟨installed, by simp [named], by simp [named]⟩
  | some package =>
    rw [named] at ran
    obtain ⟨second, verifies, ran⟩ := Script.run_cons_ok.mp ran
    have verified := verified_of_turn named verifies
    refine ⟨installed, ?_, ?_⟩
    · intro other same
      obtain rfl := Option.some.inj (named.symm.trans same)
      exact verified
    · intro other same launch
      obtain rfl := Option.some.inj (named.symm.trans same)
      rw [if_pos launch] at ran
      obtain ⟨third, launches, -⟩ := Script.run_cons_ok.mp ran
      exact launched_of_turn named launches

end DeployArgs

namespace Scheduler

variable {config : SchedulerConfig} {scheduler : Scheduler} {spec : TaskSpec}

/-- The specifications of every record made so far. -/
def specs (scheduler : Scheduler) : List TaskSpec := scheduler.records.map TaskRecord.spec

/-- A submission adds its specification. -/
theorem specs_submit (config : SchedulerConfig) (scheduler : Scheduler) (spec : TaskSpec)
    (correlationId : String) :
    (scheduler.submit config spec correlationId).specs = scheduler.specs ++ [spec] := by
  simp only [specs, submit]
  split <;> simp

/-- A submission names its record, and no other id. -/
theorem table_submit (config : SchedulerConfig) (scheduler : Scheduler) (spec : TaskSpec)
    (correlationId : String) : (scheduler.submit config spec correlationId).table =
      Function.update scheduler.table spec.id (some scheduler.records.length) := by
  simp only [submit]
  split <;> rfl

/-- Submissions add their specifications. -/
theorem specs_submitAll (config : SchedulerConfig) :
    ∀ (submissions : List (TaskSpec × String)) (scheduler : Scheduler),
      (scheduler.submitAll config submissions).specs =
        scheduler.specs ++ submissions.map Prod.fst
  | [], scheduler => by simp [submitAll]
  | submission :: rest, scheduler => by
    rw [submitAll, List.foldl_cons, ← submitAll, specs_submitAll config rest, specs_submit]
    simp

/-- A submitted specification is found under its id. -/
theorem Attended.get (attended : scheduler.Attended) (submitted : spec ∈ scheduler.specs) :
    ∃ (index : Nat) (record : TaskRecord), scheduler.records[index]? = some record ∧
      record.spec = spec ∧ scheduler.get spec.id = some record := by
  obtain ⟨record, member, rfl⟩ := List.mem_map.mp submitted
  obtain ⟨index, known⟩ := List.getElem?_of_mem member
  refine ⟨index, record, known, rfl, ?_⟩
  rw [Scheduler.get, attended.named index record known]
  exact known

end Scheduler

namespace SchedulerWorld

open Scheduler

variable {config : SchedulerConfig} {world before after : SchedulerWorld}
variable {action : SchedulerAction} {python : Python} {target : ApkTarget}

/-- No step drops a specification. -/
theorem specs_step (taken : step config world action = some after) {spec : TaskSpec}
    (submitted : spec ∈ world.scheduler.specs) : spec ∈ after.scheduler.specs := by
  by_cases submits : ∃ spec correlationId, action = .submit spec correlationId
  · obtain ⟨new, correlationId, rfl⟩ := submits
    cases taken
    rw [withScheduler, specs_submit]
    exact List.mem_append_left _ submitted
  · have same := sameSpecs_step taken fun spec correlationId submitted =>
      submits ⟨spec, correlationId, submitted⟩
    rw [specs, same.specs]
    exact submitted

/-- Submissions with new and distinct ids are a run. -/
theorem submitAll_run :
    ∀ (submissions : List (TaskSpec × String)) (world : SchedulerWorld),
      (∀ submission ∈ submissions, world.scheduler.table submission.1.id = none) →
      (submissions.map fun submission => submission.1.id).Nodup →
      Transition.Run (step config) (Serving python target) world
        (world.withScheduler (world.scheduler.submitAll config submissions))
  | [], _, _, _ => .refl
  | submission :: rest, world, fresh, apart => by
    obtain ⟨alone, apart⟩ := List.nodup_cons.mp apart
    have unused : world.scheduler.table submission.1.id = none :=
      fresh submission List.mem_cons_self
    have submits : step config world (.submit submission.1 submission.2) =
        some (world.withScheduler (world.scheduler.submit config submission.1 submission.2)) := rfl
    have serving : Serving python target world (.submit submission.1 submission.2) :=
      ⟨unused, trivial⟩
    have first : Transition.Run (step config) (Serving python target) world
        (world.withScheduler (world.scheduler.submit config submission.1 submission.2)) :=
      .single serving submits
    refine first.trans (submitAll_run rest _ ?_ apart)
    intro other member
    have differs : other.1.id ≠ submission.1.id := fun same =>
      alone (List.mem_map.mpr ⟨other, member, same⟩)
    rw [withScheduler, table_submit, Function.update_of_ne differs]
    exact fresh other (List.mem_cons_of_mem _ member)

end SchedulerWorld

/-- **A device on which the rollout is done.** Its task succeeded, with every attempt on that
device, and returned what `execute` made of adb's answers there. -/
def RolledOut (args : DeployArgs) (python : Python) (target : ApkTarget) (scheduler : Scheduler)
    (taskId : TaskId) (deviceId : DeviceId) : Prop :=
  ∃ record value answers, scheduler.get taskId = some record ∧ record.state = .succeeded ∧
    record.devices ≠ [] ∧ (∀ visited ∈ record.devices, visited = deviceId) ∧
    record.result = some value ∧
    target.execute python deviceId answers args.steps = .ok value ∧ args.Deployed answers

namespace SchedulerWorld

open Scheduler

variable {config : SchedulerConfig} {before after : SchedulerWorld} {python : Python}
variable {target : ApkTarget} {args : DeployArgs} {mint : DeviceId → TaskId}
variable {link : DeviceId → String}

/-- A task of the rollout that succeeded did its work on its device. -/
theorem rolledOut_of_succeeded
    (run : Transition.Run (step config) (Serving python target) {} after) {taskId : TaskId}
    {deviceId : DeviceId} (named : deviceId ≠ "")
    (submitted : args.spec taskId deviceId ∈ after.scheduler.specs)
    (green : (after.scheduler.get taskId).any (·.state = .succeeded) = true) :
    RolledOut args python target after.scheduler taskId deviceId := by
  have plain : Transition.Run (step config) Distinct {} after := run.mono fun _ may => may.1
  obtain ⟨index, record, known, spec, found⟩ := (attended_run plain).get submitted
  have own : after.scheduler.get taskId = some record := found
  have succeeded : record.state = .succeeded := by simpa [own] using green
  have steered : Steered after.scheduler := plain.invariant (fun world => Steered world.scheduler)
    (fun _ member => absurd member List.not_mem_nil)
    fun _ steered _ taken => steered_step steered taken
  have pinned := steered record (List.mem_of_getElem? known)
  unfold TaskRecord.Pinned at pinned
  rw [spec] at pinned
  have visits : ∀ visited ∈ record.devices, visited = deviceId := by
    intro visited member
    have same : (deviceId == visited) = true :=
      pinned (by simpa [DeployArgs.spec, Json.truthy] using named) visited member
    exact (beq_iff_eq.mp same).symm
  obtain ⟨done, attempt, value, answers, attempts, -, -, result, returned⟩ :=
    proven_run run index record known (by rw [spec]; rfl) succeeded
  have last : attempt.deviceId = deviceId :=
    visits _ (by simp [TaskRecord.devices, attempts])
  rw [last, spec] at returned
  exact ⟨record, value, answers, own, succeeded, by simp [TaskRecord.devices, attempts], visits,
    result, returned, DeployArgs.deployed_of_execute returned⟩

/-- **A green rollout.** In every run in which the apk target is the one behind its tasks,
`cmd_deploy` exits with 0 exactly if there was a phone and the rollout is done on each: an install
that adb called a success, the version it was to verify, and the launch. -/
theorem rollout_green (earlier : Transition.Run (step config) (Serving python target) {} before)
    (minted : ∀ deviceId ∈ before.registry.deployTargets,
      before.scheduler.table (mint deviceId) = none)
    (apart : (before.registry.deployTargets.map mint).Nodup)
    (named : "" ∉ before.registry.deployTargets)
    (later : Transition.Run (step config) (Serving python target)
      (cmdDeploy config args mint link before) after) :
    cmdDeployCode before.registry.deployTargets mint after.scheduler = 0 ↔
      before.registry.deployTargets ≠ [] ∧ ∀ deviceId ∈ before.registry.deployTargets,
        RolledOut args python target after.scheduler (mint deviceId) deviceId := by
  generalize targets : before.registry.deployTargets = devices at *
  let submissions := devices.map fun deviceId =>
    (args.spec (mint deviceId) deviceId, link deviceId)
  have middle : Transition.Run (step config) (Serving python target) before
      (cmdDeploy config args mint link before) := by
    rw [cmdDeploy, targets]
    apply submitAll_run submissions before
    · simpa [submissions, DeployArgs.spec] using minted
    · simpa [submissions, Function.comp_def, DeployArgs.spec] using apart
  have whole := (earlier.trans middle).trans later
  have submitted : ∀ deviceId ∈ devices,
      args.spec (mint deviceId) deviceId ∈ after.scheduler.specs := by
    intro deviceId member
    refine later.invariant
      (fun world => args.spec (mint deviceId) deviceId ∈ world.scheduler.specs) ?_
      fun _ known _ taken => specs_step taken known
    rw [cmdDeploy, targets, withScheduler, specs_submitAll]
    simp only [List.map_map, List.mem_append, List.mem_map, Function.comp_apply]
    exact .inr ⟨deviceId, member, rfl⟩
  unfold cmdDeployCode
  by_cases empty : devices = []
  · simp [empty]
  · rw [if_neg (by simpa using empty)]
    simp only [ne_eq, empty, not_false_eq_true, true_and]
    constructor
    · intro green
      split at green
      · rename_i all
        intro deviceId member
        exact rolledOut_of_succeeded whole (fun blank => named (blank ▸ member))
          (submitted deviceId member) (List.all_eq_true.mp all deviceId member)
      · cases green
    · intro all
      rw [if_pos]
      apply List.all_eq_true.mpr
      intro deviceId member
      obtain ⟨record, value, answers, found, succeeded, -⟩ := all deviceId member
      simp [found, succeeded]

end SchedulerWorld

namespace Bench

open SchedulerWorld

/-- A scheduler with the apk target. -/
def apkConfig : SchedulerConfig where
  policy := { workers := 1 }
  kinds := ["apk"]

/-- A phone and a browser slot. -/
def phoneAndBrowser : Registry where
  devices := ⟨[{ id := "phone-a" }, { id := "browser-1", transport := "virtual" }], by decide⟩

/-- A rollout that verifies and launches. -/
def release : DeployArgs where
  apk := "app.apk"
  package := some "demo"
  expectVersion := some "2.0"
  launch := true

/-- An adb that does as it is told. -/
def willing : ApkAnswers where
  remaining := 60
  budget := 60
  run args _ :=
    let shown := if "dumpsys" ∈ args then "versionName=2.0" else "Success"
    .ok { returncode := 0, stdout := shown }
  file _ := ⟨true, .ok "d1", .ok 1⟩

/-- The scheduler before the rollout. -/
def upright : SchedulerWorld :=
  (Transition.execute (step apkConfig) {} [.others phoneAndBrowser, .start]).getD {}

/-- The rollout, with its task on the phone. -/
def onPhone : SchedulerWorld :=
  (Transition.execute (step apkConfig) (cmdDeploy apkConfig release id id upright)
    [.take 0, .leased 0 0, .sinkReturned 0]).getD {}

/-- The record of the phone while it is worked on. -/
def onPhoneRecord : TaskRecord where
  spec := release.spec "phone-a" "phone-a"
  correlationId := "phone-a"
  state := .running
  attempts := [{ number := 1, deviceId := "phone-a" }]

end Bench

namespace SchedulerWorld

/-- A rollout over one phone that turns green. -/
theorem rollout_green_phone : ∃ (value : Json) (after : SchedulerWorld),
    step Bench.apkConfig Bench.onPhone (.executed 0 (.result value) 0) = some after ∧
    cmdDeployCode Bench.upright.registry.deployTargets id after.scheduler = 0 ∧
    (cmdDeployCode Bench.upright.registry.deployTargets id after.scheduler = 0 ↔
      Bench.upright.registry.deployTargets ≠ [] ∧
        ∀ deviceId ∈ Bench.upright.registry.deployTargets, RolledOut Bench.release default {}
          after.scheduler (id deviceId) deviceId) := by
  have targets : Bench.upright.registry.deployTargets = ["phone-a"] := by decide +kernel
  have served : Transition.execute
      (Transition.guarded (step Bench.apkConfig) fun world action =>
        Distinct world action ∧ action.quiet = true) {}
      [.others Bench.phoneAndBrowser, .start] = some Bench.upright := rfl
  have begun : Transition.Run (step Bench.apkConfig) (Serving default {}) {} Bench.upright :=
    (Transition.execute_run served).mono fun _ => Serving.of_quiet
  have leased : Transition.execute
      (Transition.guarded (step Bench.apkConfig) fun world action =>
        Distinct world action ∧ action.quiet = true)
      (cmdDeploy Bench.apkConfig Bench.release id id Bench.upright)
      [.take 0, .leased 0 0, .sinkReturned 0] = some Bench.onPhone := rfl
  have working : Transition.Run (step Bench.apkConfig) (Serving default {})
      (cmdDeploy Bench.apkConfig Bench.release id id Bench.upright) Bench.onPhone :=
    (Transition.execute_run leased).mono fun _ => Serving.of_quiet
  have returns : (ApkTarget.execute default {} "phone-a" (fun _ => Bench.willing)
      Bench.release.steps).isOk = true := by decide +kernel
  cases returned : ApkTarget.execute default {} "phone-a" (fun _ => Bench.willing)
      Bench.release.steps with
  | error raised => simp [returned, Except.isOk, Except.toBool] at returns
  | ok value =>
    have served : Serving default {} Bench.onPhone (.executed 0 (.result value) 0) := by
      refine ⟨trivial, fun index lease attempt record busy _ => ?_⟩
      have here : Bench.onPhone.at? 0 =
        some (0, .executing ⟨"phone-a", 0⟩ 0, Bench.onPhoneRecord) := rfl
      obtain ⟨rfl, ⟨rfl, rfl⟩, rfl⟩ : 0 = index ∧ (⟨"phone-a", 0⟩ = lease ∧ 0 = attempt) ∧
          Bench.onPhoneRecord = record := by
        simpa using here.symm.trans busy
      exact ⟨_, returned⟩
    refine ⟨value, _, rfl, by rw [targets]; rfl, ?_⟩
    refine rollout_green begun ?_ ?_ ?_ (working.next served rfl)
    · rw [targets]
      decide
    · rw [targets]
      decide
    · rw [targets]
      decide

end SchedulerWorld

end DeviceOrchestrator
