import DeviceOrchestrator.Lib.Slots
import DeviceOrchestrator.Verif.SchedulerSteps

/-!
# The scheduler's counters are the real numbers

Whatever targets, sinks and the health monitor do, `_inflight` is the number of busy workers,
`_pending_retries` is the number of sleeping retries, and `_idle` is set only while both are
zero and no task is queued.
-/
namespace DeviceOrchestrator

/-- A worker between the two ends of its loop body. -/
def Worker.inCall : Worker → Bool
  | busy _ _ => true
  | idle | exited => false

namespace Scheduler

/-- The counters agree with what they count, and every index names a record. -/
structure Accounted (scheduler : Scheduler) : Prop where
  /-- `_inflight` counts the busy workers. -/
  inflight : scheduler.inflight = scheduler.workers.countP Worker.inCall
  /-- `_pending_retries` counts the sleeping retries. -/
  pendingRetries : scheduler.pendingRetries = scheduler.retries.length
  /-- A busy worker's record exists. -/
  inRange : ∀ index point, .busy index point ∈ scheduler.workers →
    index < scheduler.records.length
  /-- An id names a record with that id. -/
  named : ∀ taskId index, scheduler.table taskId = some index →
    ∃ record, scheduler.records[index]? = some record ∧ record.spec.id = taskId
  /-- While `_idle` is set nothing is in flight, in backoff or queued. -/
  quiet : scheduler.idle = true →
    scheduler.inflight = 0 ∧ scheduler.pendingRetries = 0 ∧
      ∀ taskId, some taskId ∉ scheduler.queue

namespace Accounted

variable {scheduler : Scheduler} {worker index : Nat} {point : Point} {record : TaskRecord}

/-- The counters of a new scheduler. -/
theorem initial : ({} : Scheduler).Accounted where
  inflight := rfl
  pendingRetries := rfl
  inRange := by simp
  named := by simp
  quiet := by simp

/-- Setting `_idle` by its own test keeps the account. -/
theorem settleIdle (accounted : scheduler.Accounted) : scheduler.settleIdle.Accounted := by
  unfold Scheduler.settleIdle
  split
  · rename_i still
    obtain ⟨empty, none, zero⟩ := still
    exact { accounted with
      quiet := fun _ => ⟨none, zero, by simp [List.isEmpty_iff.mp empty]⟩ }
  · exact accounted

/-- A worker that is busy keeps `_idle` clear. -/
theorem not_idle (accounted : scheduler.Accounted)
    (busy : scheduler.workers[worker]? = some (.busy index point)) : scheduler.idle = false := by
  have positive := Slots.countP_pos Worker.inCall busy rfl
  have counted := accounted.inflight
  by_contra set
  have quiet := (accounted.quiet (by simpa using set)).1
  omega

/-- A worker outside a call has no record to find. -/
theorem inRange_outside (accounted : scheduler.Accounted) {next : Worker}
    (outside : next.inCall = false) : ∀ index point,
    .busy index point ∈ scheduler.workers.set worker next → index < scheduler.records.length := by
  intro held awaited member
  rcases List.mem_or_eq_of_mem_set member with earlier | rfl
  · exact accounted.inRange held awaited earlier
  · cases outside

/-- A worker inside a call finds its record, also once it was rewritten. -/
theorem inRange_inside (accounted : scheduler.Accounted) (bound : index < scheduler.records.length)
    (next : Point) (new : TaskRecord) : ∀ held point,
    .busy held point ∈ scheduler.workers.set worker (.busy index next) →
      held < (scheduler.records.set index new).length := by
  intro held awaited member
  rw [List.length_set]
  rcases List.mem_or_eq_of_mem_set member with earlier | here
  · exact accounted.inRange held awaited earlier
  · cases here
    exact bound

/-- A busy worker that leaves its call is no longer counted. -/
theorem leave (accounted : scheduler.Accounted)
    (busy : scheduler.workers[worker]? = some (.busy index point)) :
    (scheduler.leave worker).Accounted := by
  have clear := accounted.not_idle busy
  have exchanged := Slots.countP_set Worker.inCall busy .idle
  simp only [Worker.inCall, ↓reduceIte, Bool.false_eq_true, Nat.add_zero] at exchanged
  refine settleIdle ⟨?_, accounted.pendingRetries, ?_, accounted.named, ?_⟩
  · have counted := accounted.inflight
    simp only [place]
    omega
  · exact accounted.inRange_outside rfl
  · intro idle
    exact absurd (clear.symm.trans idle) (by decide)

/-- Rewriting a record without its id keeps the names. -/
theorem named_set (accounted : scheduler.Accounted) {new : TaskRecord}
    (known : scheduler.records[index]? = some record) (same : new.spec.id = record.spec.id)
    {taskId : TaskId} {named : Nat} (found : scheduler.table taskId = some named) :
    ∃ record, (scheduler.records.set index new)[named]? = some record ∧
      record.spec.id = taskId := by
  obtain ⟨old, held, identified⟩ := accounted.named taskId named found
  obtain ⟨bound, -⟩ := List.getElem?_eq_some_iff.mp known
  by_cases here : index = named
  · subst here
    obtain rfl := Option.some.inj (known.symm.trans held)
    exact ⟨new, by simp [bound], same.trans identified⟩
  · exact ⟨old, by rw [List.getElem?_set_ne here]; exact held, identified⟩

/-- A busy worker that goes on to another await is still counted. -/
theorem advance (accounted : scheduler.Accounted)
    (busy : scheduler.workers[worker]? = some (.busy index point))
    (known : scheduler.records[index]? = some record) {new : TaskRecord}
    (same : new.spec.id = record.spec.id) (next : Point) (events : List StateEvent) :
    (scheduler.advance worker index new next events).Accounted := by
  have exchanged := Slots.countP_set Worker.inCall busy (.busy index next)
  simp only [Worker.inCall, ↓reduceIte] at exchanged
  refine ⟨?_, accounted.pendingRetries, ?_, fun _ _ => accounted.named_set known same,
    accounted.quiet⟩
  · have counted := accounted.inflight
    simp only [Scheduler.advance]
    omega
  · have bound := accounted.inRange index point (List.mem_of_getElem? busy)
    exact accounted.inRange_inside bound next new

/-- `_requeue` keeps the account. -/
theorem requeue (accounted : scheduler.Accounted)
    (busy : scheduler.workers[worker]? = some (.busy index point))
    (known : scheduler.records[index]? = some record) {lease : Option Lease}
    {after : Scheduler} (went : Requeue scheduler worker index record lease after) :
    after.Accounted := by
  cases went with
  | exhausted error spent => exact accounted.advance busy known (by rfl) _ _
  | delayed delay left small => exact accounted.advance busy known (by rfl) _ _
  | overflow left large =>
    cases lease with
    | none => exact accounted.leave busy
    | some lease =>
      simp only [unwind]
      rw [place_eq known]
      exact accounted.advance busy known rfl _ _

/-- Suspending a busy worker elsewhere keeps the account. -/
theorem place (accounted : scheduler.Accounted)
    (busy : scheduler.workers[worker]? = some (.busy index point))
    (known : scheduler.records[index]? = some record) (next : Point) :
    (scheduler.place worker (.busy index next)).Accounted := by
  rw [place_eq known]
  exact accounted.advance busy known rfl _ _

/-- Unwinding a call keeps the account. -/
theorem unwind (accounted : scheduler.Accounted)
    (busy : scheduler.workers[worker]? = some (.busy index point))
    (known : scheduler.records[index]? = some record) (lease : Option Lease) :
    (scheduler.unwind worker index lease).Accounted := by
  cases lease with
  | none => exact accounted.leave busy
  | some lease => exact accounted.place busy known _

/-- A retry is counted when it is created. -/
theorem retry (accounted : scheduler.Accounted) (created : Retry) :
    ({ scheduler with
      pendingRetries := scheduler.pendingRetries + 1
      idle := false
      retries := scheduler.retries ++ [created] } : Scheduler).Accounted where
  inflight := accounted.inflight
  pendingRetries := by
    have counted := accounted.pendingRetries
    simp only [List.length_append, List.length_singleton]
    omega
  inRange := accounted.inRange
  named := accounted.named
  quiet idle := by cases idle

/-- What follows a sink keeps the account. -/
theorem sinkReturned (accounted : scheduler.Accounted)
    (busy : scheduler.workers[worker]? = some (.busy index point))
    (known : scheduler.records[index]? = some record) {after : Scheduler}
    (went : scheduler.sinkReturned worker index record point = some after) :
    after.Accounted := by
  cases point with
  | abandoning => cases went; exact accounted.leave busy
  | starting lease attempt => cases went; exact accounted.place busy known _
  | requeueing lease delay =>
    cases went
    exact (accounted.retry _).unwind busy known lease
  | failing lease => cases went; exact accounted.unwind busy known lease
  | announcing => cases went; exact accounted.leave busy
  | acquiring => cases went
  | executing lease attempt => cases went
  | quarantining lease reason => cases went
  | releasing lease => cases went

/-- What follows a sink that raised keeps the account. -/
theorem sinkRaised (accounted : scheduler.Accounted)
    (busy : scheduler.workers[worker]? = some (.busy index point))
    (known : scheduler.records[index]? = some record) {after : Scheduler}
    (went : scheduler.sinkRaised worker index point = some after) : after.Accounted := by
  obtain ⟨lease, rfl⟩ := sinkRaised_unwind went
  exact accounted.unwind busy known lease

/-- A target that ended keeps the account. -/
theorem ended (accounted : scheduler.Accounted)
    (busy : scheduler.workers[worker]? = some (.busy index point))
    (known : scheduler.records[index]? = some record) {config : SchedulerConfig}
    {registry : Registry} {new : TaskRecord} (same : new.spec.id = record.spec.id)
    {lease : Lease} {outcome : Outcome} {after : Scheduler}
    (went : Ended config registry scheduler worker index new lease outcome after) :
    after.Accounted := by
  cases went with
  | succeeded value => exact accounted.advance busy known (by exact same) _ _
  | rejected message => exact accounted.advance busy known (by exact same) _ _
  | blamed outcome reason wired blames online => exact accounted.advance busy known same _ _
  | requeued outcome after fails excused went =>
    obtain ⟨bound, -⟩ := List.getElem?_eq_some_iff.mp known
    have rewritten : ({ scheduler with
        records := scheduler.records.set index new } : Scheduler).Accounted :=
      { accounted with
        inRange := by simpa using accounted.inRange
        named := fun _ _ => accounted.named_set known same }
    have entered : ({ scheduler with
        records := scheduler.records.set index new } : Scheduler).records[index]? = some new := by
      simp [bound]
    exact rewritten.requeue busy entered went

/-- A worker that took a token and is still idle stays uncounted once it leaves. -/
theorem skip (accounted : scheduler.Accounted)
    (idle : scheduler.workers[worker]? = some .idle) {taskId : TaskId}
    {rest : List (Option TaskId)} (head : scheduler.queue = some taskId :: rest) :
    (({ scheduler with
      queue := rest
      inflight := scheduler.inflight + 1 } : Scheduler).leave worker).Accounted := by
  have exchanged := Slots.countP_set Worker.inCall idle .idle
  refine settleIdle ⟨?_, accounted.pendingRetries, ?_, accounted.named, ?_⟩
  · have counted := accounted.inflight
    simp only [Scheduler.place]
    omega
  · exact accounted.inRange_outside rfl
  · intro set
    exact absurd (by simp [head]) ((accounted.quiet set).2.2 taskId)

/-- A worker that took a token and entered `_run_once` is counted. -/
theorem enter (accounted : scheduler.Accounted)
    (idle : scheduler.workers[worker]? = some .idle) {taskId : TaskId}
    {rest : List (Option TaskId)} (head : scheduler.queue = some taskId :: rest)
    (known : scheduler.records[index]? = some record) {new : TaskRecord}
    (same : new.spec.id = record.spec.id) (next : Point) (events : List StateEvent) :
    (({ scheduler with
      queue := rest
      inflight := scheduler.inflight + 1 } : Scheduler).advance worker index new next
        events).Accounted := by
  have exchanged := Slots.countP_set Worker.inCall idle (.busy index next)
  simp only [Worker.inCall, ↓reduceIte, Bool.false_eq_true, Nat.add_zero] at exchanged
  obtain ⟨bound, -⟩ := List.getElem?_eq_some_iff.mp known
  refine ⟨?_, accounted.pendingRetries, ?_, fun _ _ => accounted.named_set known same, ?_⟩
  · have counted := accounted.inflight
    simp only [Scheduler.advance]
    omega
  · exact accounted.inRange_inside bound next new
  · intro set
    exact absurd (by simp [head]) ((accounted.quiet set).2.2 taskId)

/-- Taking a task keeps the account. -/
theorem takeTask (accounted : scheduler.Accounted)
    (idle : scheduler.workers[worker]? = some .idle) {taskId : TaskId}
    {rest : List (Option TaskId)} (head : scheduler.queue = some taskId :: rest)
    (registry : Registry) : (scheduler.takeTask registry worker taskId rest).Accounted := by
  have went := takeTask_cases registry worker taskId rest scheduler
  generalize scheduler.takeTask registry worker taskId rest = after at went ⊢
  cases went with
  | skipped => exact accounted.skip idle head
  | raised => exact accounted.skip idle head
  | abandoned index record error named known unskipped =>
    exact accounted.enter idle head known (by rfl) _ _
  | acquiring index record named known unskipped =>
    exact accounted.enter idle head known rfl _ _

/-- A submitted specification keeps the account. -/
theorem submit (accounted : scheduler.Accounted) (config : SchedulerConfig) (spec : TaskSpec)
    (correlationId : String) : (scheduler.submit config spec correlationId).Accounted := by
  have added : ∀ new : TaskRecord, new.spec = spec → ∀ taskId named,
      Function.update scheduler.table spec.id (some scheduler.records.length) taskId =
        some named →
      ∃ record, (scheduler.records ++ [new])[named]? = some record ∧
        record.spec.id = taskId := by
    rintro new rfl taskId named found
    by_cases same : taskId = new.spec.id
    · subst same
      obtain rfl : scheduler.records.length = named := by simpa using found
      exact ⟨new, by simp, rfl⟩
    · rw [Function.update_of_ne same] at found
      obtain ⟨record, known, identified⟩ := accounted.named taskId named found
      obtain ⟨bound, -⟩ := List.getElem?_eq_some_iff.mp known
      exact ⟨record, by rw [List.getElem?_append_left bound]; exact known, identified⟩
  have further : ∀ (new : TaskRecord) index point, .busy index point ∈ scheduler.workers →
      index < (scheduler.records ++ [new]).length := by
    intro new index point member
    have bound := accounted.inRange index point member
    simp only [List.length_append, List.length_singleton]
    omega
  simp only [Scheduler.submit]
  split
  · exact ⟨accounted.inflight, accounted.pendingRetries, further _, added _ rfl, (by simp)⟩
  · exact ⟨accounted.inflight, accounted.pendingRetries, further _, added _ rfl,
      accounted.quiet⟩

/-- Starting the workers keeps the account. -/
theorem start (accounted : scheduler.Accounted) (config : SchedulerConfig) :
    (scheduler.start config).Accounted := by
  unfold Scheduler.start
  split
  · exact accounted
  · refine ⟨?_, accounted.pendingRetries, ?_, accounted.named, accounted.quiet⟩
    · simpa [List.countP_append, List.countP_replicate, Worker.inCall] using accounted.inflight
    · intro held awaited member
      rcases List.mem_append.mp member with earlier | impossible
      · exact accounted.inRange held awaited earlier
      · cases List.eq_of_mem_replicate impossible

/-- Queueing poison pills keeps the account. -/
theorem stop (accounted : scheduler.Accounted) : scheduler.stop.Accounted := by
  unfold Scheduler.stop
  split
  · refine ⟨accounted.inflight, accounted.pendingRetries, accounted.inRange, accounted.named,
      ?_⟩
    intro idle
    obtain ⟨none, zero, empty⟩ := accounted.quiet idle
    refine ⟨none, zero, fun taskId member => ?_⟩
    rcases List.mem_append.mp member with earlier | impossible
    · exact empty taskId earlier
    · cases List.eq_of_mem_replicate impossible
  · exact accounted

/-- A worker that exits on a pill keeps the account. -/
theorem pill (accounted : scheduler.Accounted)
    (idle : scheduler.workers[worker]? = some .idle) {rest : List (Option TaskId)}
    (head : scheduler.queue = none :: rest) :
    (({ scheduler with queue := rest } : Scheduler).place worker .exited).Accounted := by
  have exchanged := Slots.countP_set Worker.inCall idle .exited
  refine ⟨?_, accounted.pendingRetries, ?_, accounted.named, ?_⟩
  · have counted := accounted.inflight
    simp only [Scheduler.place]
    simp only [Worker.inCall, Bool.false_eq_true, ↓reduceIte, Nat.add_zero] at exchanged
    omega
  · exact accounted.inRange_outside rfl
  · intro set
    obtain ⟨none, zero, empty⟩ := accounted.quiet set
    exact ⟨none, zero, fun taskId member => empty taskId (head ▸ List.mem_cons_of_mem _ member)⟩

/-- A retry that wakes is queued before it is uncounted. -/
theorem retryDue (accounted : scheduler.Accounted) {position : Nat} {retry : Retry}
    (found : scheduler.retries[position]? = some retry) :
    ({ scheduler with
      queue := scheduler.queue ++ [some retry.taskId]
      pendingRetries := scheduler.pendingRetries - 1
      retries := scheduler.retries.eraseIdx position } : Scheduler).settleIdle.Accounted := by
  obtain ⟨bound, -⟩ := List.getElem?_eq_some_iff.mp found
  have counted := accounted.pendingRetries
  refine settleIdle ⟨accounted.inflight, ?_, accounted.inRange, accounted.named, ?_⟩
  · simp only [List.length_eraseIdx_of_lt bound]
    omega
  · intro idle
    have none := (accounted.quiet idle).2.1
    omega

end Accounted

end Scheduler

/-- **Every step keeps the account**, whatever its await answered. -/
theorem SchedulerWorld.accounted_step {config : SchedulerConfig} {world after : SchedulerWorld}
    {action : SchedulerAction} (accounted : world.scheduler.Accounted)
    (taken : step config world action = some after) : after.scheduler.Accounted := by
  cases step_effect taken with
  | submit spec correlationId => exact accounted.submit config spec correlationId
  | start => exact accounted.start config
  | stop => exact accounted.stop
  | stopped call stopping => exact { accounted with }
  | pill worker rest idle head => exact accounted.pill idle head
  | take worker taskId rest idle head => exact accounted.takeTask idle head _
  | leased worker token index record device attempts busy known free fresh length =>
    exact accounted.advance busy known (by rfl) _ _
  | leaseTimeout worker draw index record after busy known went =>
    exact accounted.requeue busy known went
  | leaseError worker index record error busy known raised => exact accounted.leave busy
  | sinkReturned worker index point record after busy known went =>
    exact accounted.sinkReturned busy known went
  | sinkRaised worker index point record after busy known went =>
    exact accounted.sinkRaised busy known went
  | executed worker outcome draw index lease attempt record ended after busy known same went =>
    exact accounted.ended busy known (by rw [same]; rfl) went
  | quarantined worker draw index lease reason record after busy known went =>
    exact accounted.requeue busy known went
  | quarantineRaised worker index lease reason record busy known =>
    exact accounted.advance busy known rfl _ _
  | releasedQuietly worker index lease record busy known pending => exact accounted.leave busy
  | released worker index lease record busy known settled =>
    exact accounted.advance busy known rfl _ _
  | retryDue position retry found => exact accounted.retryDue found
  | others registry => exact accounted

/-- **The counters are right in every reachable state.** -/
theorem SchedulerWorld.accounted {config : SchedulerConfig}
    {allowed : SchedulerWorld → SchedulerAction → Prop} {world : SchedulerWorld}
    (run : Transition.Run (step config) allowed {} world) : world.scheduler.Accounted :=
  run.invariant (fun world => world.scheduler.Accounted) Scheduler.Accounted.initial
    fun _ accounted _ taken => accounted_step accounted taken

end DeviceOrchestrator
