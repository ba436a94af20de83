import Mathlib.Algebra.Order.Field.Rat
import DeviceOrchestrator.Core.Device
import DeviceOrchestrator.Lib.Run

/-!
# The scheduler as a step function

Every coroutine of the scheduler runs without interruption from one `await` to the next, so a
step is what one coroutine does between two awaits. `Point` names the awaits of `_run_once` and
of the methods it calls; a `Worker` is suspended at one of them, waits for the queue or has
exited. An action says which coroutine resumes and what its await answered: a lease, a sink
that returned or raised, how the target ended. Between two actions of the scheduler the other
parties may change the registry in any way (`SchedulerAction.others`).
-/
namespace DeviceOrchestrator

/-- `SchedulerPolicy`. The lease timeout is left out: a lease can time out at any await. -/
structure SchedulerPolicy where
  /-- Worker coroutines that `start` creates. -/
  workers : Nat := 4
  /-- First retry delay. -/
  retryBaseS : Rat := 2
  /-- Cap of the retry delay. -/
  retryMaxS : Rat := 30
  /-- Fraction of the delay by which it is jittered. -/
  retryJitter : Rat := 3 / 10

/-- `scale * (2 ** exponent)` for a float and an int: the int is converted first, which
overflows from `2 ** 1024` on. -/
def timesPowerOfTwo (scale : Rat) (exponent : Nat) : Except PyError Rat :=
  if 1024 ≤ exponent then .error .overflowError else .ok (scale * 2 ^ exponent)

/-- `random.uniform(low, high)` for one draw of `random.random()`. -/
def uniform (low high draw : Rat) : Rat := low + (high - low) * draw

/-- `Scheduler._backoff`. -/
def SchedulerPolicy.backoff (policy : SchedulerPolicy) (attempt : Nat) (draw : Rat) :
    Except PyError Rat :=
  match timesPowerOfTwo policy.retryBaseS attempt with
  | .error error => .error error
  | .ok grown =>
    let raw := min policy.retryMaxS grown
    let jitter := raw * policy.retryJitter
    .ok (max (1 / 10) (raw + uniform (-jitter) jitter draw))

/-- The backoff overflows exactly from attempt 1024 on. -/
theorem SchedulerPolicy.backoff_ok_iff (policy : SchedulerPolicy) (attempt : Nat) (draw : Rat) :
    (∃ delay, policy.backoff attempt draw = .ok delay) ↔ attempt < 1024 := by
  unfold backoff timesPowerOfTwo
  by_cases large : 1024 ≤ attempt
  · simp [large]
  · simp [large]
    omega

/-- What the scheduler is built with. -/
structure SchedulerConfig where
  /-- Tuning. -/
  policy : SchedulerPolicy := {}
  /-- The kinds a target is registered for. -/
  kinds : List String
  /-- Whether a health monitor is wired in. -/
  health : Bool := true
  /-- `str` of a float. -/
  showFloat : Float → String := fun _ => ""
  /-- `repr` of a string. -/
  showText : String → String := fun _ => ""

/-- A `task.state` event. -/
structure StateEvent where
  /-- The task. -/
  taskId : TaskId
  /-- Its correlation id. -/
  correlationId : String
  /-- The state announced. -/
  state : TaskState
  /-- Attempts so far. -/
  attempt : Nat
  /-- The device of the last attempt. -/
  deviceId : Option DeviceId
  /-- The record's error. -/
  error : Option String
  deriving DecidableEq

/-- The event `_emit_state` builds from a record. -/
def TaskRecord.event (record : TaskRecord) : StateEvent where
  taskId := record.spec.id
  correlationId := record.correlationId
  state := record.state
  attempt := record.attemptCount
  deviceId := record.attempts.getLast?.map Attempt.deviceId
  error := record.error

/-- The awaits of `_run_once` and of the methods it calls, each with what the rest of the call
still needs. A lease is missing where `_requeue` runs after a lease timeout. -/
inductive Point
  /-- `_emit_state` of ABANDONED. -/
  | abandoning
  /-- `registry.acquire`. -/
  | acquiring
  /-- `_emit_state` of RUNNING, before the `try`. -/
  | starting (lease : Lease) (attempt : Nat)
  /-- `wait_for(target.execute(...))`. -/
  | executing (lease : Lease) (attempt : Nat)
  /-- `health.quarantine` in `_after_failure`. -/
  | quarantining (lease : Lease) (reason : String)
  /-- `_emit_state` of PENDING in `_requeue`, before the retry is created. -/
  | requeueing (lease : Option Lease) (delay : Rat)
  /-- `_emit_state` of FAILED in `_requeue`. -/
  | failing (lease : Option Lease)
  /-- `registry.release` in the `finally`. -/
  | releasing (lease : Lease)
  /-- `_emit_state` in the `finally`. -/
  | announcing
  deriving DecidableEq

/-- A worker coroutine. -/
inductive Worker
  /-- Waiting in `queue.get`. -/
  | idle
  /-- Inside `_run_once` on a record. -/
  | busy (index : Nat) (point : Point)
  /-- Returned after a poison pill. -/
  | exited
  deriving DecidableEq

/-- A `_delayed_put` asleep. -/
structure Retry where
  /-- The task to put back. -/
  taskId : TaskId
  /-- The delay it was created with. -/
  delay : Rat
  deriving DecidableEq

/-- `Scheduler`. Records live in a heap, in submission order; `_records` maps an id to the
latest of them. -/
structure Scheduler where
  /-- Every record made so far. -/
  records : List TaskRecord := []
  /-- `_records`. -/
  table : TaskId → Option Nat := fun _ => none
  /-- `_queue`; `none` is a poison pill. -/
  queue : List (Option TaskId) := []
  /-- Every worker coroutine made so far. -/
  workers : List Worker := []
  /-- `_workers`, by position. -/
  pool : List Nat := []
  /-- `stop` calls that await the workers they gathered. -/
  stopping : List (List Nat) := []
  /-- `_running`. -/
  running : Bool := false
  /-- `_idle`. -/
  idle : Bool := true
  /-- `_inflight`. -/
  inflight : Int := 0
  /-- `_pending_retries`. -/
  pendingRetries : Int := 0
  /-- The sleeping retries. -/
  retries : List Retry := []
  /-- Events handed to the sink. -/
  published : List StateEvent := []

namespace Scheduler

/-- Change one record. -/
def modify (scheduler : Scheduler) (index : Nat) (change : TaskRecord → TaskRecord) : Scheduler :=
  { scheduler with records := scheduler.records.modify index change }

/-- Suspend a worker. -/
def place (scheduler : Scheduler) (worker : Nat) (state : Worker) : Scheduler :=
  { scheduler with workers := scheduler.workers.set worker state }

/-- `_settle_idle`. -/
def settleIdle (scheduler : Scheduler) : Scheduler :=
  if scheduler.queue.isEmpty ∧ scheduler.inflight = 0 ∧ scheduler.pendingRetries = 0 then
    { scheduler with idle := true }
  else scheduler

/-- The `finally` of the worker loop, after `_run_once` returned or raised. -/
def leave (scheduler : Scheduler) (worker : Nat) : Scheduler :=
  ({ scheduler with inflight := scheduler.inflight - 1 }.place worker .idle).settleIdle

/-- `_finish`. -/
def finish (scheduler : Scheduler) (index : Nat) (state : TaskState) (result : Option Json)
    (error : Option String) : Scheduler :=
  scheduler.modify index fun record =>
    { record with state := state, result := result, error := error }

/-- Hand the sink the event of a record. -/
def emitState (scheduler : Scheduler) (index : Nat) : Scheduler :=
  match scheduler.records[index]? with
  | none => scheduler
  | some record => { scheduler with published := scheduler.published ++ [record.event] }

/-- An exception leaves `_requeue` or `_after_failure`: with a lease the `finally` of
`_run_once` releases it first, without one the worker loop catches it at once. -/
def unwind (scheduler : Scheduler) (worker index : Nat) (lease : Option Lease) : Scheduler :=
  match lease with
  | none => scheduler.leave worker
  | some lease => scheduler.place worker (.busy index (.releasing lease))

/-- `_requeue`, up to its first await. -/
def requeue (config : SchedulerConfig) (scheduler : Scheduler) (worker index : Nat)
    (record : TaskRecord) (lease : Option Lease) (reason : String) (draw : Rat) : Scheduler :=
  if record.spec.maxAttempts ≤ record.attemptCount then
    let count := record.attemptCount
    ((scheduler.finish index .failed none (some s!"{reason} (after {count} attempts)")).emitState
      index).place worker (.busy index (.failing lease))
  else match config.policy.backoff record.attemptCount draw with
    | .error _ => scheduler.unwind worker index lease
    | .ok delay =>
      ((scheduler.modify index fun record => { record with state := .pending }).emitState
        index).place worker (.busy index (.requeueing lease delay))

/-- `_after_failure`, up to its first await. The monitor is asked only if the device is ONLINE. -/
def afterFailure (config : SchedulerConfig) (registry : Registry) (scheduler : Scheduler)
    (worker index : Nat) (record : TaskRecord) (lease : Lease) (blamesDevice : Bool)
    (reason : String) (draw : Rat) : Scheduler :=
  if blamesDevice ∧ config.health ∧ registry.stateOf lease.deviceId = some .online then
    scheduler.place worker (.busy index (.quarantining lease reason))
  else scheduler.requeue config worker index record (some lease) reason draw

/-- `attempt.error` after an outcome. -/
def attemptError (config : SchedulerConfig) (record : TaskRecord) : Outcome → Option String
  | .result _ => none
  | .fatal message | .retryable message _ | .session message | .crash message => some message
  | .timeout =>
    let shown := config.showFloat record.spec.timeoutS
    some s!"timed out after {shown}s"

/-- What follows `wait_for(target.execute(...))`, up to the next await. -/
def executed (config : SchedulerConfig) (registry : Registry) (scheduler : Scheduler)
    (worker index : Nat) (record : TaskRecord) (lease : Lease) (attempt : Nat)
    (outcome : Outcome) (draw : Rat) : Scheduler :=
  let error := attemptError config record outcome
  let ended := scheduler.modify index fun record => record.endAttempt attempt error
  match outcome with
  | .result value =>
    (ended.finish index .succeeded (some value) none).place worker
      (.busy index (.releasing lease))
  | .fatal message =>
    (ended.finish index .rejected none (some message)).place worker
      (.busy index (.releasing lease))
  | _ =>
    ended.afterFailure config registry worker index (record.endAttempt attempt error) lease
      outcome.blamesDevice (error.getD "") draw

/-- What follows a sink that returned, up to the next await. After the PENDING announcement
the retry is counted and created. -/
def sinkReturned (scheduler : Scheduler) (worker index : Nat) (record : TaskRecord) :
    Point → Option Scheduler
  | .abandoning => some (scheduler.leave worker)
  | .starting lease attempt =>
    some (scheduler.place worker (.busy index (.executing lease attempt)))
  | .requeueing lease delay =>
    some ({ scheduler with
      pendingRetries := scheduler.pendingRetries + 1
      idle := false
      retries := scheduler.retries ++ [Retry.mk record.spec.id delay] }.unwind worker index lease)
  | .failing lease => some (scheduler.unwind worker index lease)
  | .announcing => some (scheduler.leave worker)
  | _ => none

/-- What follows a sink that raised. The RUNNING announcement is made before the `try`, so
there the lease is not released; the PENDING announcement is made before the retry is
created. -/
def sinkRaised (scheduler : Scheduler) (worker index : Nat) : Point → Option Scheduler
  | .abandoning | .starting _ _ | .announcing => some (scheduler.leave worker)
  | .requeueing lease _ | .failing lease => some (scheduler.unwind worker index lease)
  | _ => none

/-- `_run_once`, up to its first await; a selector that cannot be evaluated makes it raise. -/
def runOnce (registry : Registry) (scheduler : Scheduler) (worker index : Nat)
    (record : TaskRecord) : Scheduler :=
  match registry.couldEverMatch record.spec.selector with
  | .error _ => scheduler.leave worker
  | .ok false =>
    ((scheduler.finish index .abandoned none
      (some "no device in the fleet matches this selector")).emitState index).place worker
        (.busy index .abandoning)
  | .ok true => scheduler.place worker (.busy index .acquiring)

/-- The worker loop from `queue.get` to the first await of `_run_once`, or back to
`queue.get`. Records in two of the four terminal states are skipped. -/
def takeTask (registry : Registry) (scheduler : Scheduler) (worker : Nat) (taskId : TaskId)
    (rest : List (Option TaskId)) : Scheduler :=
  let scheduler := { scheduler with queue := rest, inflight := scheduler.inflight + 1 }
  match scheduler.table taskId with
  | none => scheduler.leave worker
  | some index =>
    match scheduler.records[index]? with
    | none => scheduler.leave worker
    | some record =>
      if record.state = .succeeded ∨ record.state = .rejected then scheduler.leave worker
      else scheduler.runOnce registry worker index record

/-- `submit`. -/
def submit (config : SchedulerConfig) (scheduler : Scheduler) (spec : TaskSpec)
    (correlationId : String) : Scheduler :=
  let index := scheduler.records.length
  let kind := config.showText spec.kind
  let table := Function.update scheduler.table spec.id (some index)
  if spec.kind ∈ config.kinds then
    { scheduler with
      records := scheduler.records ++ [{ spec := spec, correlationId := correlationId }]
      table := table
      idle := false
      queue := scheduler.queue ++ [some spec.id] }
  else
    { scheduler with
      records := scheduler.records ++
        [{ spec := spec, correlationId := correlationId, state := .rejected,
           error := some s!"no target registered for kind={kind}" }]
      table := table }

/-- `start`. -/
def start (config : SchedulerConfig) (scheduler : Scheduler) : Scheduler :=
  if scheduler.running then scheduler
  else
    { scheduler with
      running := true
      workers := scheduler.workers ++ List.replicate config.policy.workers .idle
      pool := scheduler.pool ++
        (List.range config.policy.workers).map (scheduler.workers.length + ·) }

/-- `stop`, up to its `gather`: one poison pill for each worker of the pool. -/
def stop (scheduler : Scheduler) : Scheduler :=
  if scheduler.running then
    { scheduler with
      running := false
      queue := scheduler.queue ++ List.replicate scheduler.pool.length none
      stopping := scheduler.stopping ++ [scheduler.pool] }
  else scheduler

/-- The lease of an attempt entered in the registry, the attempt appended and announced. -/
def startAttempt (scheduler : Scheduler) (worker index : Nat) (record : TaskRecord)
    (lease : Lease) : Scheduler :=
  let attempt : Attempt :=
    { number := record.attemptCount + 1, deviceId := lease.deviceId }
  ((scheduler.modify index fun record =>
    { record with attempts := record.attempts ++ [attempt], state := .running }).emitState
      index).place worker (.busy index (.starting lease record.attemptCount))

end Scheduler

/-- Which coroutine resumes, and what its await answered. -/
inductive SchedulerAction
  /-- A client submits a specification. -/
  | submit (spec : TaskSpec) (correlationId : String)
  /-- `start`. -/
  | start
  /-- `stop`, up to its `gather`. -/
  | stop
  /-- A `stop` whose workers have all returned. -/
  | stopped (call : Nat)
  /-- A worker gets the head of the queue. -/
  | take (worker : Nat)
  /-- `acquire` finds a free device and makes a lease. -/
  | leased (worker token : Nat)
  /-- `acquire` times out. -/
  | leaseTimeout (worker : Nat) (draw : Rat)
  /-- `acquire` raises while it evaluates the selector. -/
  | leaseError (worker : Nat)
  /-- The sink returns. -/
  | sinkReturned (worker : Nat)
  /-- The sink raises. -/
  | sinkRaised (worker : Nat)
  /-- The target ends. -/
  | executed (worker : Nat) (outcome : Outcome) (draw : Rat)
  /-- `health.quarantine` returns. -/
  | quarantined (worker : Nat) (draw : Rat)
  /-- `health.quarantine` raises. -/
  | quarantineRaised (worker : Nat)
  /-- `release` gets the registry's lock and returns. -/
  | released (worker : Nat)
  /-- A sleeping retry wakes. -/
  | retryDue (position : Nat)
  /-- Another party changes the registry. -/
  | others (registry : Registry)

/-- The scheduler together with the registry it leases from. -/
structure SchedulerWorld where
  /-- The registry. -/
  registry : Registry := {}
  /-- The scheduler. -/
  scheduler : Scheduler := {}

namespace SchedulerWorld

/-- The same registry with another scheduler. -/
def withScheduler (world : SchedulerWorld) (scheduler : Scheduler) : SchedulerWorld :=
  { world with scheduler := scheduler }

/-- The record and the await of a busy worker. -/
def at? (world : SchedulerWorld) (worker : Nat) : Option (Nat × Point × TaskRecord) :=
  match world.scheduler.workers[worker]? with
  | some (.busy index point) =>
    world.scheduler.records[index]?.map fun record => (index, point, record)
  | _ => none

/-- One step of one coroutine. -/
def step (config : SchedulerConfig) (world : SchedulerWorld) :
    SchedulerAction → Option SchedulerWorld
  | .submit spec correlationId =>
    some (world.withScheduler (world.scheduler.submit config spec correlationId))
  | .start => some (world.withScheduler (world.scheduler.start config))
  | .stop => some (world.withScheduler world.scheduler.stop)
  | .stopped call =>
    match world.scheduler.stopping[call]? with
    | none => none
    | some gathered =>
      if gathered.all fun worker => world.scheduler.workers[worker]? = some .exited then
        some (world.withScheduler
          { world.scheduler with pool := [], stopping := world.scheduler.stopping.eraseIdx call })
      else none
  | .take worker =>
    match world.scheduler.workers[worker]?, world.scheduler.queue with
    | some .idle, none :: rest =>
      some (world.withScheduler
        ({ world.scheduler with queue := rest }.place worker .exited))
    | some .idle, some taskId :: rest =>
      some (world.withScheduler (world.scheduler.takeTask world.registry worker taskId rest))
    | _, _ => none
  | .leased worker token =>
    match world.at? worker with
    | some (index, .acquiring, record) =>
      match world.registry.findFree record.spec.selector with
      | .ok (some device) =>
        if token ∈ world.registry.issued then none
        else
          some { registry := world.registry.grant ⟨device.id, token⟩
                 scheduler := world.scheduler.startAttempt worker index record
                   ⟨device.id, token⟩ }
      | _ => none
    | _ => none
  | .leaseTimeout worker draw =>
    match world.at? worker with
    | some (index, .acquiring, record) =>
      some (world.withScheduler
        (world.scheduler.requeue config worker index record none "no device available" draw))
    | _ => none
  | .leaseError worker =>
    match world.at? worker with
    | some (_, .acquiring, record) =>
      match world.registry.findFree record.spec.selector with
      | .error _ => some (world.withScheduler (world.scheduler.leave worker))
      | .ok _ => none
    | _ => none
  | .sinkReturned worker =>
    match world.at? worker with
    | some (index, point, record) =>
      (world.scheduler.sinkReturned worker index record point).map world.withScheduler
    | none => none
  | .sinkRaised worker =>
    match world.at? worker with
    | some (index, point, _) =>
      (world.scheduler.sinkRaised worker index point).map world.withScheduler
    | none => none
  | .executed worker outcome draw =>
    match world.at? worker with
    | some (index, .executing lease attempt, record) =>
      some (world.withScheduler
        (world.scheduler.executed config world.registry worker index record lease attempt
          outcome draw))
    | _ => none
  | .quarantined worker draw =>
    match world.at? worker with
    | some (index, .quarantining lease reason, record) =>
      some (world.withScheduler
        (world.scheduler.requeue config worker index record (some lease) reason draw))
    | _ => none
  | .quarantineRaised worker =>
    match world.at? worker with
    | some (index, .quarantining lease _, _) =>
      some (world.withScheduler (world.scheduler.unwind worker index (some lease)))
    | _ => none
  | .released worker =>
    match world.at? worker with
    | some (index, .releasing lease, record) =>
      some { registry := world.registry.unlease lease
             scheduler :=
               if record.state = .pending then world.scheduler.leave worker
               else (world.scheduler.emitState index).place worker (.busy index .announcing) }
    | _ => none
  | .retryDue position =>
    match world.scheduler.retries[position]? with
    | none => none
    | some retry =>
      some (world.withScheduler
        { world.scheduler with
          queue := world.scheduler.queue ++ [some retry.taskId]
          pendingRetries := world.scheduler.pendingRetries - 1
          retries := world.scheduler.retries.eraseIdx position }.settleIdle)
  | .others registry => some { world with registry := registry }

end SchedulerWorld

end DeviceOrchestrator
