import DeviceOrchestrator.Core.Scheduler

/-!
# What one step of the scheduler can do

Every segment of `_run_once` ends in one of two ways: the worker goes on to another await with
its record rewritten (`Scheduler.advance`), or it leaves the call. `Requeue`, `Ended` and
`Effect` list these ways with the conditions under which each is taken, so that an invariant is
checked against the list and no proof unfolds the step function again.
-/
namespace DeviceOrchestrator

/-- Outcomes that end an attempt but not the task. -/
def Outcome.fails : Outcome → Bool
  | result _ | fatal _ => false
  | retryable _ _ | session _ | timeout | crash _ => true

namespace Scheduler

/-- A busy worker at its next await, with its record rewritten and events published. -/
def advance (scheduler : Scheduler) (worker index : Nat) (record : TaskRecord) (point : Point)
    (events : List StateEvent) : Scheduler :=
  { scheduler with
    records := scheduler.records.set index record
    workers := scheduler.workers.set worker (.busy index point)
    published := scheduler.published ++ events }

section
variable {scheduler : Scheduler} {worker index : Nat}

/-- An advanced worker is at its next await. -/
theorem advance_worker (inside : worker < scheduler.workers.length) {record : TaskRecord}
    {point : Point} {events : List StateEvent} :
    (scheduler.advance worker index record point events).workers[worker]? =
      some (.busy index point) := by
  simp [advance, inside]

/-- The record of an advanced worker is rewritten. -/
theorem advance_record (bound : index < scheduler.records.length) {record : TaskRecord}
    {point : Point} {events : List StateEvent} :
    (scheduler.advance worker index record point events).records[index]? = some record := by
  simp [advance, bound]

end

section
variable (scheduler : Scheduler) (worker : Nat)

@[simp]
theorem records_settleIdle : scheduler.settleIdle.records = scheduler.records := by
  unfold settleIdle
  split <;> rfl

@[simp]
theorem table_settleIdle : scheduler.settleIdle.table = scheduler.table := by
  unfold settleIdle
  split <;> rfl

@[simp]
theorem queue_settleIdle : scheduler.settleIdle.queue = scheduler.queue := by
  unfold settleIdle
  split <;> rfl

@[simp]
theorem retries_settleIdle : scheduler.settleIdle.retries = scheduler.retries := by
  unfold settleIdle
  split <;> rfl

@[simp]
theorem workers_settleIdle : scheduler.settleIdle.workers = scheduler.workers := by
  unfold settleIdle
  split <;> rfl

@[simp]
theorem records_leave : (scheduler.leave worker).records = scheduler.records := by
  simp [leave, place]

@[simp]
theorem table_leave : (scheduler.leave worker).table = scheduler.table := by
  simp [leave, place]

@[simp]
theorem queue_leave : (scheduler.leave worker).queue = scheduler.queue := by
  simp [leave, place]

@[simp]
theorem retries_leave : (scheduler.leave worker).retries = scheduler.retries := by
  simp [leave, place]

@[simp]
theorem workers_leave :
    (scheduler.leave worker).workers = scheduler.workers.set worker .idle := by
  simp [leave, place]

@[simp]
theorem records_unwind (index : Nat) (lease : Option Lease) :
    (scheduler.unwind worker index lease).records = scheduler.records := by
  cases lease <;> simp [unwind, place]

@[simp]
theorem table_unwind (index : Nat) (lease : Option Lease) :
    (scheduler.unwind worker index lease).table = scheduler.table := by
  cases lease <;> simp [unwind, place]

/-- An exception of the sink leaves the call, with or without a lease to release. -/
theorem sinkRaised_unwind {scheduler after : Scheduler} {worker index : Nat} {point : Point}
    (went : scheduler.sinkRaised worker index point = some after) :
    ∃ lease, after = scheduler.unwind worker index lease := by
  cases point with
  | abandoning => cases went; exact ⟨none, rfl⟩
  | starting lease attempt => cases went; exact ⟨none, rfl⟩
  | announcing => cases went; exact ⟨none, rfl⟩
  | requeueing lease delay => cases went; exact ⟨lease, rfl⟩
  | failing lease => cases went; exact ⟨lease, rfl⟩
  | acquiring => cases went
  | executing lease attempt => cases went
  | quarantining lease reason => cases went
  | releasing lease => cases went

end

section
variable {config : SchedulerConfig} {scheduler : Scheduler} {worker index : Nat}
variable {record : TaskRecord}

/-- Changing a known record sets it. -/
theorem modify_eq (known : scheduler.records[index]? = some record)
    (change : TaskRecord → TaskRecord) :
    scheduler.modify index change =
      { scheduler with records := scheduler.records.set index (change record) } := by
  obtain ⟨bound, rfl⟩ := List.getElem?_eq_some_iff.mp known
  simp only [modify, List.modify_eq_set_getElem?, known, Option.map_eq_map, Option.map_some,
    Option.getD_some]

/-- Suspending a worker advances it with its record as it is. -/
theorem place_eq (known : scheduler.records[index]? = some record) (point : Point) :
    scheduler.place worker (.busy index point) =
      scheduler.advance worker index record point [] := by
  obtain ⟨bound, rfl⟩ := List.getElem?_eq_some_iff.mp known
  simp [place, advance]

/-- Changing a known record, announcing it and suspending the worker advances it. -/
theorem announce_eq (known : scheduler.records[index]? = some record)
    (change : TaskRecord → TaskRecord) (point : Point) :
    ((scheduler.modify index change).emitState index).place worker (.busy index point) =
      scheduler.advance worker index (change record) point [(change record).event] := by
  obtain ⟨bound, -⟩ := List.getElem?_eq_some_iff.mp known
  rw [modify_eq known]
  simp [emitState, place, advance, bound]

/-- Where `_requeue` goes. -/
inductive Requeue (scheduler : Scheduler) (worker index : Nat) (record : TaskRecord)
    (lease : Option Lease) : Scheduler → Prop
  /-- The attempts are used up. -/
  | exhausted (error : String) : record.spec.maxAttempts ≤ record.attemptCount →
      Requeue scheduler worker index record lease (scheduler.advance worker index
        { record with state := .failed, result := none, error := some error } (.failing lease)
        [{ record with state := .failed, result := none, error := some error }.event])
  /-- The backoff overflows. -/
  | overflow : record.attemptCount < record.spec.maxAttempts → 1024 ≤ record.attemptCount →
      Requeue scheduler worker index record lease (scheduler.unwind worker index lease)
  /-- A retry is due after a delay. -/
  | delayed (delay : Rat) : record.attemptCount < record.spec.maxAttempts →
      record.attemptCount < 1024 →
      Requeue scheduler worker index record lease (scheduler.advance worker index
        { record with state := .pending } (.requeueing lease delay)
        [{ record with state := .pending }.event])

/-- `_requeue` goes one of these ways. -/
theorem requeue_cases (known : scheduler.records[index]? = some record) (lease : Option Lease)
    (reason : String) (draw : Rat) :
    Requeue scheduler worker index record lease
      (scheduler.requeue config worker index record lease reason draw) := by
  unfold requeue
  split
  · rename_i exhausted
    simp only [finish]
    rw [announce_eq known]
    exact .exhausted _ exhausted
  · rename_i left
    have left : record.attemptCount < record.spec.maxAttempts := by omega
    have answers := config.policy.backoff_ok_iff record.attemptCount draw
    cases delayed : config.policy.backoff record.attemptCount draw with
    | error raised =>
      have large : ¬ record.attemptCount < 1024 := by
        rw [← answers, delayed]
        rintro ⟨delay, impossible⟩
        cases impossible
      exact .overflow left (by omega)
    | ok delay =>
      simp only
      rw [announce_eq known]
      exact .delayed delay left (answers.mp ⟨delay, delayed⟩)

/-- Where the worker goes when the target ends. -/
inductive Ended (config : SchedulerConfig) (registry : Registry) (scheduler : Scheduler)
    (worker index : Nat) (record : TaskRecord) (lease : Lease) : Outcome → Scheduler → Prop
  /-- With a result. -/
  | succeeded (value : Json) :
      Ended config registry scheduler worker index record lease (.result value)
      (scheduler.advance worker index
        { record with state := .succeeded, result := some value, error := none }
        (.releasing lease) [])
  /-- Because the work itself is wrong. -/
  | rejected (message : String) :
      Ended config registry scheduler worker index record lease (.fatal message)
      (scheduler.advance worker index
        { record with state := .rejected, result := none, error := some message }
        (.releasing lease) [])
  /-- By a failure that blames a device which is still ONLINE. -/
  | blamed (outcome : Outcome) (reason : String) : config.health = true →
      outcome.blamesDevice = true →
      registry.stateOf lease.deviceId = some .online →
      Ended config registry scheduler worker index record lease outcome
        (scheduler.advance worker index record (.quarantining lease reason) [])
  /-- By any other failure. -/
  | requeued (outcome : Outcome) (after : Scheduler) : outcome.fails = true →
      ¬(outcome.blamesDevice ∧ config.health ∧
        registry.stateOf lease.deviceId = some .online) →
      Requeue { scheduler with records := scheduler.records.set index record } worker index record
        (some lease) after →
      Ended config registry scheduler worker index record lease outcome after

/-- What follows the target goes one of these ways, with the attempt ended. -/
theorem executed_cases (registry : Registry) (known : scheduler.records[index]? = some record)
    (lease : Lease) (attempt : Nat) (outcome : Outcome) (draw : Rat) :
    Ended config registry scheduler worker index
      (record.endAttempt attempt (attemptError config record outcome)) lease outcome
      (scheduler.executed config registry worker index record lease attempt outcome draw) := by
  obtain ⟨bound, -⟩ := List.getElem?_eq_some_iff.mp known
  simp only [executed, modify_eq known]
  generalize attemptError config record outcome = error
  generalize record.endAttempt attempt error = ended
  have entered : ({ scheduler with
      records := scheduler.records.set index ended } : Scheduler).records[index]? =
        some ended := by
    simp [bound]
  have failed : outcome.fails = true →
      Ended config registry scheduler worker index ended lease outcome
      (({ scheduler with records := scheduler.records.set index ended } :
        Scheduler).afterFailure config registry worker index ended lease outcome.blamesDevice
          (error.getD "") draw) := by
    intro fails
    unfold afterFailure
    split
    · rename_i blamed
      rw [place_eq entered]
      simpa [advance] using Ended.blamed outcome _ blamed.2.1 blamed.1 blamed.2.2
    · rename_i excused
      exact .requeued outcome _ fails excused (requeue_cases entered _ _ _)
  cases outcome with
  | result value =>
    simp only [finish]
    rw [modify_eq entered]
    simpa [place, advance] using Ended.succeeded value
  | fatal message =>
    simp only [finish]
    rw [modify_eq entered]
    simpa [place, advance] using Ended.rejected message
  | retryable message blames => exact failed rfl
  | session message => exact failed rfl
  | timeout => exact failed rfl
  | crash message => exact failed rfl

/-- Where the worker goes with a token it took. -/
inductive TakeTask (registry : Registry) (worker : Nat) (taskId : TaskId)
    (rest : List (Option TaskId)) (scheduler : Scheduler) : Scheduler → Prop
  /-- The token names nothing, or a record that the worker skips. -/
  | skipped : (∀ index record, scheduler.table taskId = some index →
        scheduler.records[index]? = some record →
        record.state = .succeeded ∨ record.state = .rejected) →
      TakeTask registry worker taskId rest scheduler
        (({ scheduler with
          queue := rest
          inflight := scheduler.inflight + 1 } : Scheduler).leave worker)
  /-- The selector cannot be evaluated. -/
  | raised (index : Nat) (record : TaskRecord) (error : PyError) :
      scheduler.table taskId = some index → scheduler.records[index]? = some record →
      record.state ≠ .succeeded ∧ record.state ≠ .rejected →
      registry.couldEverMatch record.spec.selector = .error error →
      TakeTask registry worker taskId rest scheduler
        (({ scheduler with
          queue := rest
          inflight := scheduler.inflight + 1 } : Scheduler).leave worker)
  /-- No device can ever match. -/
  | abandoned (index : Nat) (record : TaskRecord) (error : Option String) :
      scheduler.table taskId = some index → scheduler.records[index]? = some record →
      record.state ≠ .succeeded ∧ record.state ≠ .rejected →
      TakeTask registry worker taskId rest scheduler
        (({ scheduler with
          queue := rest
          inflight := scheduler.inflight + 1 } : Scheduler).advance worker index
            { record with state := .abandoned, result := none, error := error } .abandoning
            [{ record with state := .abandoned, result := none, error := error }.event])
  /-- A device may match. -/
  | acquiring (index : Nat) (record : TaskRecord) :
      scheduler.table taskId = some index → scheduler.records[index]? = some record →
      record.state ≠ .succeeded ∧ record.state ≠ .rejected →
      TakeTask registry worker taskId rest scheduler
        (({ scheduler with
          queue := rest
          inflight := scheduler.inflight + 1 } : Scheduler).advance worker index record
            .acquiring [])

/-- What follows a token goes one of these ways. -/
theorem takeTask_cases (registry : Registry) (worker : Nat) (taskId : TaskId)
    (rest : List (Option TaskId)) (scheduler : Scheduler) :
    TakeTask registry worker taskId rest scheduler
      (scheduler.takeTask registry worker taskId rest) := by
  simp only [takeTask]
  split
  · rename_i unnamed
    exact .skipped fun index record named => by rw [unnamed] at named; cases named
  · rename_i index named
    split
    · rename_i missing
      exact .skipped fun other record named' known => by
        rw [named] at named'
        cases named'
        rw [missing] at known
        cases known
    · rename_i record known
      split
      · rename_i skip
        exact .skipped fun other record' named' known' => by
          rw [named] at named'
          cases named'
          rw [known] at known'
          cases known'
          exact skip
      · rename_i unskipped
        rw [not_or] at unskipped
        have entered : ({ scheduler with
            queue := rest
            inflight := scheduler.inflight + 1 } : Scheduler).records[index]? =
              some record := known
        unfold runOnce
        split
        · rename_i error raised
          exact .raised index record error named known unskipped raised
        · simp only [finish]
          rw [announce_eq entered]
          exact .abandoned index record _ named known unskipped
        · rw [place_eq entered]
          exact .acquiring index record named known unskipped

end

/-- Two schedulers name the same records with the same specifications. -/
structure SameSpecs (scheduler after : Scheduler) : Prop where
  /-- Ids name the same records. -/
  table : after.table = scheduler.table
  /-- Records keep their specifications. -/
  specs : after.records.map TaskRecord.spec = scheduler.records.map TaskRecord.spec

namespace SameSpecs

variable {scheduler after : Scheduler} {worker index : Nat} {record new : TaskRecord}

/-- Leaving the records alone keeps their specifications. -/
theorem of_eq (table : after.table = scheduler.table)
    (records : after.records = scheduler.records) : SameSpecs scheduler after :=
  ⟨table, by rw [records]⟩

/-- Rewriting a record with its specification keeps the specifications. -/
theorem of_set (table : after.table = scheduler.table)
    (records : after.records = scheduler.records.set index new)
    (known : scheduler.records[index]? = some record) (same : new.spec = record.spec) :
    SameSpecs scheduler after := by
  refine ⟨table, ?_⟩
  obtain ⟨bound, rfl⟩ := List.getElem?_eq_some_iff.mp known
  rw [records, List.map_set, same]
  apply List.ext_getElem? fun position => ?_
  by_cases here : index = position
  · subst here
    simp [bound]
  · simp [here]

/-- `_requeue` keeps the specifications. -/
theorem requeue (known : scheduler.records[index]? = some record) {lease : Option Lease}
    (went : Requeue scheduler worker index record lease after) : SameSpecs scheduler after := by
  cases went with
  | exhausted error spent => exact .of_set rfl rfl known (by rfl)
  | delayed delay left small => exact .of_set rfl rfl known (by rfl)
  | overflow left large => exact .of_eq (table_unwind _ _ _ _) (records_unwind _ _ _ _)

/-- Two changes in a row keep the specifications. -/
theorem trans {middle : Scheduler} (first : SameSpecs scheduler middle)
    (second : SameSpecs middle after) : SameSpecs scheduler after :=
  ⟨second.table.trans first.table, second.specs.trans first.specs⟩

end SameSpecs

end Scheduler

namespace SchedulerWorld

/-- A step as it was taken. -/
abbrev Taken := Transition.Taken SchedulerWorld SchedulerAction

/-- What each action can lead to. -/
inductive Effect (config : SchedulerConfig) (world : SchedulerWorld) :
    SchedulerAction → SchedulerWorld → Prop
  /-- A submitted specification. -/
  | submit (spec : TaskSpec) (correlationId : String) :
      Effect config world (.submit spec correlationId)
        (world.withScheduler (world.scheduler.submit config spec correlationId))
  /-- `start`. -/
  | start : Effect config world .start (world.withScheduler (world.scheduler.start config))
  /-- `stop`. -/
  | stop : Effect config world .stop (world.withScheduler world.scheduler.stop)
  /-- A `stop` that returns. -/
  | stopped (call : Nat) (stopping : List (List Nat)) :
      Effect config world (.stopped call)
        (world.withScheduler { world.scheduler with pool := [], stopping := stopping })
  /-- A poison pill. -/
  | pill (worker : Nat) (rest : List (Option TaskId)) :
      world.scheduler.workers[worker]? = some .idle → world.scheduler.queue = none :: rest →
      Effect config world (.take worker)
        (world.withScheduler ({ world.scheduler with queue := rest }.place worker .exited))
  /-- A task. -/
  | take (worker : Nat) (taskId : TaskId) (rest : List (Option TaskId)) :
      world.scheduler.workers[worker]? = some .idle →
      world.scheduler.queue = some taskId :: rest →
      Effect config world (.take worker)
        (world.withScheduler (world.scheduler.takeTask world.registry worker taskId rest))
  /-- A lease. -/
  | leased (worker token index : Nat) (record : TaskRecord) (device : Device)
      (attempts : List Attempt) :
      world.scheduler.workers[worker]? = some (.busy index .acquiring) →
      world.scheduler.records[index]? = some record →
      world.registry.findFree record.spec.selector = .ok (some device) →
      token ∉ world.registry.issued → attempts.length = record.attemptCount + 1 →
      Effect config world (.leased worker token)
        { registry := world.registry.grant ⟨device.id, token⟩
          scheduler := world.scheduler.advance worker index
            { record with attempts := attempts, state := .running }
            (.starting ⟨device.id, token⟩ record.attemptCount)
            [{ record with attempts := attempts, state := .running }.event] }
  /-- No lease in time. -/
  | leaseTimeout (worker : Nat) (draw : Rat) (index : Nat) (record : TaskRecord)
      (after : Scheduler) :
      world.scheduler.workers[worker]? = some (.busy index .acquiring) →
      world.scheduler.records[index]? = some record →
      Scheduler.Requeue world.scheduler worker index record none after →
      Effect config world (.leaseTimeout worker draw) (world.withScheduler after)
  /-- A selector that cannot be evaluated. -/
  | leaseError (worker index : Nat) (record : TaskRecord) (error : PyError) :
      world.scheduler.workers[worker]? = some (.busy index .acquiring) →
      world.scheduler.records[index]? = some record →
      world.registry.findFree record.spec.selector = .error error →
      Effect config world (.leaseError worker)
        (world.withScheduler (world.scheduler.leave worker))
  /-- A sink that returns. -/
  | sinkReturned (worker index : Nat) (point : Point) (record : TaskRecord)
      (after : Scheduler) :
      world.scheduler.workers[worker]? = some (.busy index point) →
      world.scheduler.records[index]? = some record →
      world.scheduler.sinkReturned worker index record point = some after →
      Effect config world (.sinkReturned worker) (world.withScheduler after)
  /-- A sink that raises. -/
  | sinkRaised (worker index : Nat) (point : Point) (record : TaskRecord)
      (after : Scheduler) :
      world.scheduler.workers[worker]? = some (.busy index point) →
      world.scheduler.records[index]? = some record →
      world.scheduler.sinkRaised worker index point = some after →
      Effect config world (.sinkRaised worker) (world.withScheduler after)
  /-- A target that ends. -/
  | executed (worker : Nat) (outcome : Outcome) (draw : Rat) (index : Nat) (lease : Lease)
      (attempt : Nat) (record ended : TaskRecord) (after : Scheduler) :
      world.scheduler.workers[worker]? = some (.busy index (.executing lease attempt)) →
      world.scheduler.records[index]? = some record →
      ended = record.endAttempt attempt (Scheduler.attemptError config record outcome) →
      Scheduler.Ended config world.registry world.scheduler worker index ended lease outcome
        after →
      Effect config world (.executed worker outcome draw) (world.withScheduler after)
  /-- A quarantine that returns. -/
  | quarantined (worker : Nat) (draw : Rat) (index : Nat) (lease : Lease) (reason : String)
      (record : TaskRecord) (after : Scheduler) :
      world.scheduler.workers[worker]? = some (.busy index (.quarantining lease reason)) →
      world.scheduler.records[index]? = some record →
      Scheduler.Requeue world.scheduler worker index record (some lease) after →
      Effect config world (.quarantined worker draw) (world.withScheduler after)
  /-- A quarantine that raises. -/
  | quarantineRaised (worker index : Nat) (lease : Lease) (reason : String)
      (record : TaskRecord) :
      world.scheduler.workers[worker]? = some (.busy index (.quarantining lease reason)) →
      world.scheduler.records[index]? = some record →
      Effect config world (.quarantineRaised worker)
        (world.withScheduler (world.scheduler.advance worker index record (.releasing lease) []))
  /-- A release after which nothing is announced. -/
  | releasedQuietly (worker index : Nat) (lease : Lease) (record : TaskRecord) :
      world.scheduler.workers[worker]? = some (.busy index (.releasing lease)) →
      world.scheduler.records[index]? = some record → record.state = .pending →
      Effect config world (.released worker)
        { registry := world.registry.unlease lease, scheduler := world.scheduler.leave worker }
  /-- A release after which the record is announced. -/
  | released (worker index : Nat) (lease : Lease) (record : TaskRecord) :
      world.scheduler.workers[worker]? = some (.busy index (.releasing lease)) →
      world.scheduler.records[index]? = some record → record.state ≠ .pending →
      Effect config world (.released worker)
        { registry := world.registry.unlease lease
          scheduler := world.scheduler.advance worker index record .announcing [record.event] }
  /-- A retry that wakes. -/
  | retryDue (position : Nat) (retry : Retry) :
      world.scheduler.retries[position]? = some retry →
      Effect config world (.retryDue position) (world.withScheduler
        { world.scheduler with
          queue := world.scheduler.queue ++ [some retry.taskId]
          pendingRetries := world.scheduler.pendingRetries - 1
          retries := world.scheduler.retries.eraseIdx position }.settleIdle)
  /-- Another party. -/
  | others (registry : Registry) :
      Effect config world (.others registry) { world with registry := registry }

/-- A busy worker is at its await with its record. -/
theorem at?_eq_some {world : SchedulerWorld} {worker index : Nat} {point : Point}
    {record : TaskRecord} : world.at? worker = some (index, point, record) ↔
      world.scheduler.workers[worker]? = some (.busy index point) ∧
        world.scheduler.records[index]? = some record := by
  unfold at?
  cases found : world.scheduler.workers[worker]? with
  | none => simp
  | some state =>
    cases state with
    | idle => simp
    | exited => simp
    | busy held point' =>
      simp only [Option.map_eq_some_iff, Prod.mk.injEq, Option.some.injEq, Worker.busy.injEq]
      constructor
      · rintro ⟨record', known, rfl, rfl, rfl⟩
        exact ⟨⟨rfl, rfl⟩, known⟩
      · rintro ⟨⟨rfl, rfl⟩, known⟩
        exact ⟨record, known, rfl, rfl, rfl⟩

variable {config : SchedulerConfig} {world after : SchedulerWorld} {action : SchedulerAction}

/-- **Every step has one of the effects.** -/
theorem step_effect (taken : step config world action = some after) :
    Effect config world action after := by
  cases action with
  | submit spec correlationId => cases taken; exact .submit spec correlationId
  | start => cases taken; exact .start
  | stop => cases taken; exact .stop
  | others registry => cases taken; exact .others registry
  | stopped call =>
    simp only [step] at taken
    split at taken
    · cases taken
    · split at taken
      · cases taken
        exact .stopped call _
      · cases taken
  | take worker =>
    simp only [step] at taken
    split at taken
    · rename_i rest idle head
      cases taken
      exact .pill worker rest idle head
    · rename_i taskId rest idle head
      cases taken
      exact .take worker taskId rest idle head
    · cases taken
  | leased worker token =>
    simp only [step] at taken
    split at taken
    · rename_i index record found
      obtain ⟨busy, known⟩ := at?_eq_some.mp found
      split at taken
      · rename_i device free
        split at taken
        · cases taken
        · rename_i fresh
          cases taken
          rw [Scheduler.startAttempt, Scheduler.announce_eq known]
          exact .leased worker token index record device _ busy known free fresh
            (by simp [TaskRecord.attemptCount])
      · cases taken
    · cases taken
  | leaseTimeout worker draw =>
    simp only [step] at taken
    split at taken
    · rename_i index record found
      obtain ⟨busy, known⟩ := at?_eq_some.mp found
      cases taken
      exact .leaseTimeout worker draw index record _ busy known
        (Scheduler.requeue_cases known _ _ _)
    · cases taken
  | leaseError worker =>
    simp only [step] at taken
    split at taken
    · rename_i index record found
      obtain ⟨busy, known⟩ := at?_eq_some.mp found
      split at taken
      · rename_i error raised
        cases taken
        exact .leaseError worker index record error busy known raised
      · cases taken
    · cases taken
  | sinkReturned worker =>
    simp only [step] at taken
    split at taken
    · rename_i index point record found
      obtain ⟨busy, known⟩ := at?_eq_some.mp found
      obtain ⟨scheduler, went, rfl⟩ := Option.map_eq_some_iff.mp taken
      exact .sinkReturned worker index point record scheduler busy known went
    · cases taken
  | sinkRaised worker =>
    simp only [step] at taken
    split at taken
    · rename_i index point record found
      obtain ⟨busy, known⟩ := at?_eq_some.mp found
      obtain ⟨scheduler, went, rfl⟩ := Option.map_eq_some_iff.mp taken
      exact .sinkRaised worker index point record scheduler busy known went
    · cases taken
  | executed worker outcome draw =>
    simp only [step] at taken
    split at taken
    · rename_i index lease attempt record found
      obtain ⟨busy, known⟩ := at?_eq_some.mp found
      cases taken
      exact .executed worker outcome draw index lease attempt record _ _ busy known rfl
        (Scheduler.executed_cases _ known _ _ _ _)
    · cases taken
  | quarantined worker draw =>
    simp only [step] at taken
    split at taken
    · rename_i index lease reason record found
      obtain ⟨busy, known⟩ := at?_eq_some.mp found
      cases taken
      exact .quarantined worker draw index lease reason record _ busy known
        (Scheduler.requeue_cases known _ _ _)
    · cases taken
  | quarantineRaised worker =>
    simp only [step] at taken
    split at taken
    · rename_i index lease reason record found
      obtain ⟨busy, known⟩ := at?_eq_some.mp found
      cases taken
      simp only [Scheduler.unwind]
      rw [Scheduler.place_eq known]
      exact .quarantineRaised worker index lease reason record busy known
    · cases taken
  | released worker =>
    simp only [step] at taken
    split at taken
    · rename_i index lease record found
      obtain ⟨busy, known⟩ := at?_eq_some.mp found
      cases taken
      by_cases pending : record.state = .pending
      · rw [if_pos pending]
        exact .releasedQuietly worker index lease record busy known pending
      · obtain ⟨bound, rfl⟩ := List.getElem?_eq_some_iff.mp known
        rw [if_neg pending]
        have moved : (world.scheduler.emitState index).place worker (.busy index .announcing) =
            world.scheduler.advance worker index world.scheduler.records[index] .announcing
              [world.scheduler.records[index].event] := by
          simp [Scheduler.emitState, Scheduler.place, Scheduler.advance, bound]
        rw [moved]
        exact .released worker index lease _ busy known pending
    · cases taken
  | retryDue position =>
    simp only [step] at taken
    split at taken
    · cases taken
    · rename_i retry found
      cases taken
      exact .retryDue position retry found

open Scheduler

/-- **No step but `submit` changes a specification or what an id names.** -/
theorem sameSpecs_step (taken : step config world action = some after)
    (other : ∀ spec correlationId, action ≠ .submit spec correlationId) :
    SameSpecs world.scheduler after.scheduler := by
  cases step_effect taken with
  | submit spec correlationId => exact absurd rfl (other spec correlationId)
  | start =>
    simp only [withScheduler, Scheduler.start]
    split <;> exact .of_eq rfl rfl
  | stop =>
    simp only [withScheduler, Scheduler.stop]
    split <;> exact .of_eq rfl rfl
  | stopped call stopping => exact .of_eq rfl rfl
  | pill worker rest idle head => exact .of_eq rfl rfl
  | take worker taskId rest idle head =>
    have went := takeTask_cases world.registry worker taskId rest world.scheduler
    simp only [withScheduler]
    generalize world.scheduler.takeTask world.registry worker taskId rest = after at went ⊢
    cases went with
    | skipped skips => exact .of_eq (table_leave _ _) (records_leave _ _)
    | raised index record error named known unskipped raised =>
      exact .of_eq (table_leave _ _) (records_leave _ _)
    | abandoned index record error named known unskipped => exact .of_set rfl rfl known (by rfl)
    | acquiring index record named known unskipped => exact .of_set rfl rfl known (by rfl)
  | leased worker token index record device attempts busy known free fresh length =>
    exact .of_set rfl rfl known (by rfl)
  | leaseTimeout worker draw index record after busy known went => exact .requeue known went
  | leaseError worker index record error busy known raised =>
    exact .of_eq (table_leave _ _) (records_leave _ _)
  | sinkReturned worker index point record after busy known went =>
    cases point <;> cases went
    · exact .of_eq (table_leave _ _) (records_leave _ _)
    · exact .of_eq rfl rfl
    · exact .of_eq (table_unwind _ _ _ _) (records_unwind _ _ _ _)
    · exact .of_eq (table_unwind _ _ _ _) (records_unwind _ _ _ _)
    · exact .of_eq (table_leave _ _) (records_leave _ _)
  | sinkRaised worker index point record after busy known went =>
    obtain ⟨lease, rfl⟩ := sinkRaised_unwind went
    exact .of_eq (table_unwind _ _ _ _) (records_unwind _ _ _ _)
  | executed worker outcome draw index lease attempt record ended after busy known same went =>
    have kept : ended.spec = record.spec := by rw [same]; rfl
    obtain ⟨bound, -⟩ := List.getElem?_eq_some_iff.mp known
    cases went with
    | succeeded value => exact .of_set rfl rfl known (by exact kept)
    | rejected message => exact .of_set rfl rfl known (by exact kept)
    | blamed outcome reason wired blames online => exact .of_set rfl rfl known kept
    | requeued outcome after fails excused went =>
      let middle : Scheduler :=
        { world.scheduler with records := world.scheduler.records.set index ended }
      have first : SameSpecs world.scheduler middle := .of_set rfl rfl known kept
      have entered : middle.records[index]? = some ended := by
        simp [middle, bound]
      exact first.trans (.requeue entered went)
  | quarantined worker draw index lease reason record after busy known went =>
    exact .requeue known went
  | quarantineRaised worker index lease reason record busy known =>
    exact .of_set rfl rfl known rfl
  | releasedQuietly worker index lease record busy known pending =>
    exact .of_eq (table_leave _ _) (records_leave _ _)
  | released worker index lease record busy known settled => exact .of_set rfl rfl known rfl
  | retryDue position retry found =>
    exact .of_eq (by simp [withScheduler]) (by simp [withScheduler])
  | others registry => exact .of_eq rfl rfl

/-- Records are only ever added. -/
theorem records_step (taken : step config world action = some after) {index : Nat}
    (bound : index < world.scheduler.records.length) :
    index < after.scheduler.records.length := by
  by_cases submits : ∃ spec correlationId, action = .submit spec correlationId
  · obtain ⟨spec, correlationId, rfl⟩ := submits
    cases taken
    simp only [withScheduler, Scheduler.submit]
    split <;> simp only [List.length_append, List.length_singleton] <;> omega
  · have same := sameSpecs_step taken fun spec correlationId submitted =>
      submits ⟨spec, correlationId, submitted⟩
    have length := congrArg List.length same.specs
    simp only [List.length_map] at length
    omega

/-- An attempt sends its worker to the monitor only if it blames the device and the device is
ONLINE, and the registry stays. -/
theorem executed_asks {worker index : Nat} {outcome : Outcome} {draw : Rat} {lease : Lease}
    {reason : String} (taken : step config world (.executed worker outcome draw) = some after)
    (waits : after.scheduler.workers[worker]? = some (.busy index (.quarantining lease reason))) :
    outcome.blamesDevice = true ∧ after.registry = world.registry ∧
      world.registry.stateOf lease.deviceId = some .online ∧
      ∃ attempt, world.scheduler.workers[worker]? =
        some (.busy index (.executing lease attempt)) := by
  cases step_effect taken with
  | executed _ _ _ index' lease' attempt record ended after busy known same went =>
    obtain ⟨inside, -⟩ := List.getElem?_eq_some_iff.mp busy
    have moved : ∀ {state : Worker}, after.workers = world.scheduler.workers.set worker state →
        state = .busy index (.quarantining lease reason) := by
      intro state workers
      simpa [withScheduler, workers, inside] using waits
    cases went with
    | succeeded value => cases moved rfl
    | rejected message => cases moved rfl
    | blamed outcome reason' wired blames online =>
      cases moved rfl
      exact ⟨blames, rfl, online, attempt, busy⟩
    | requeued outcome after fails excused went =>
      cases went with
      | exhausted error spent => cases moved rfl
      | delayed delay left small => cases moved rfl
      | overflow left large => cases moved rfl

end SchedulerWorld

end DeviceOrchestrator
