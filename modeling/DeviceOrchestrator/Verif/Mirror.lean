import DeviceOrchestrator.Lib.Latest
import DeviceOrchestrator.Verif.Moves

/-!
# The feed shows the records

Whoever follows the `task.state` events and keeps the latest one for each correlation id sees the
records as they are: each is shown by its latest event, or has not been announced and is as it was
submitted, or has a result that its worker announces when the lease is released (`Shown`). Neither
exceptions of the sink or the monitor nor ids that are submitted again change this.
-/
namespace DeviceOrchestrator

open Latest (latest)

/-- A result that is announced only when the lease is released. -/
def TaskState.deferred : TaskState → Bool
  | succeeded | rejected => true
  | _ => false

namespace SchedulerWorld

open Scheduler

/-- Every submission gets a correlation id of its own. -/
def Correlated (world : SchedulerWorld) : SchedulerAction → Prop
  | .submit _ correlationId =>
    ∀ record ∈ world.scheduler.records, record.correlationId ≠ correlationId
  | _ => True

instance (world : SchedulerWorld) : ∀ action, Decidable (Correlated world action)
  | .submit _ correlationId =>
    inferInstanceAs (Decidable (∀ record ∈ world.scheduler.records, _ ≠ correlationId))
  | .start | .stop | .stopped _ | .take _ | .leased _ _ | .leaseTimeout _ _ | .leaseError _
  | .sinkReturned _ | .sinkRaised _ | .executed _ _ _ | .quarantined _ _ | .quarantineRaised _
  | .released _ | .retryDue _ | .others _ => inferInstanceAs (Decidable True)

/-- The latest event published for a correlation id. -/
def lastEvent (world : SchedulerWorld) (correlationId : String) : Option StateEvent :=
  latest StateEvent.correlationId world.scheduler.published correlationId

/-- Whether a worker awaits the release of its lease. -/
def awaitsRelease : Worker → Bool
  | .busy _ (.releasing _) => true
  | _ => false

/-- A worker has the result of a record and awaits the release of its lease. -/
def Withholds (world : SchedulerWorld) (index : Nat) : Prop :=
  ∃ (worker : Nat) (lease : Lease),
    world.scheduler.workers[worker]? = some (.busy index (.releasing lease))

/-- **What the feed tells of a record.** -/
inductive Shown (world : SchedulerWorld) (index : Nat) (record : TaskRecord) : Prop
  /-- Its latest event shows it. -/
  | mirrored (same : world.lastEvent record.correlationId = some record.event)
  /-- It has not been announced, and has had no attempt. -/
  | unannounced (unseen : world.lastEvent record.correlationId = none)
      (unused : record.attemptCount = 0)
      (fresh : record.state = .pending ∨ record.state = .rejected)
  /-- Its result is announced when the lease is released. -/
  | withheld (settled : record.state.deferred = true) (withholds : world.Withholds index)

/-- A worker rewrites its record, and only it moves. -/
structure Rewrites (world after : SchedulerWorld) (worker index : Nat)
    (record new : TaskRecord) : Prop where
  /-- The record it rewrites. -/
  known : world.scheduler.records[index]? = some record
  /-- Its correlation id stays. -/
  same : new.correlationId = record.correlationId
  /-- Only this record is rewritten. -/
  records : after.scheduler.records = world.scheduler.records.set index new
  /-- Only this worker moves. -/
  others : ∀ other, other ≠ worker →
    after.scheduler.workers[other]? = world.scheduler.workers[other]?
  /-- It works on no other record. -/
  own : ∀ held point, world.scheduler.workers[worker]? = some (.busy held point) → held = index

/-- **What one step is to the feed.** -/
inductive Telling (world after : SchedulerWorld) : Prop
  /-- A record is rewritten and announced. -/
  | told (worker index : Nat) (record new : TaskRecord)
      (rewrites : Rewrites world after worker index record new)
      (published : after.scheduler.published = world.scheduler.published ++ [new.event])
  /-- A record is rewritten into one with the same event, by a worker that withholds nothing. -/
  | quiet (worker index : Nat) (record new : TaskRecord)
      (rewrites : Rewrites world after worker index record new)
      (event : new.event = record.event)
      (published : after.scheduler.published = world.scheduler.published)
      (free : ∀ lease, world.scheduler.workers[worker]? = some (.busy index (.releasing lease)) →
        record.state = .pending)
  /-- A record gets a result, and its worker awaits the release. -/
  | settled (worker index : Nat) (record new : TaskRecord)
      (rewrites : Rewrites world after worker index record new)
      (published : after.scheduler.published = world.scheduler.published)
      (deferred : new.state.deferred = true) (withholds : after.Withholds index)
  /-- No record is rewritten, and no worker that awaits a release moves. -/
  | still (records : after.scheduler.records = world.scheduler.records)
      (published : after.scheduler.published = world.scheduler.published)
      (kept : ∀ index, world.Withholds index → after.Withholds index)
  /-- A record is added. -/
  | submits (new : TaskRecord)
      (records : after.scheduler.records = world.scheduler.records ++ [new])
      (published : after.scheduler.published = world.scheduler.published)
      (workers : after.scheduler.workers = world.scheduler.workers)
      (unused : new.attemptCount = 0) (fresh : new.state = .pending ∨ new.state = .rejected)
      (apart : ∀ record ∈ world.scheduler.records, record.correlationId ≠ new.correlationId)

end SchedulerWorld

/-- Ending an attempt changes nothing that is announced. -/
theorem TaskRecord.event_endAttempt (record : TaskRecord) (attempt : Nat)
    (error : Option String) : (record.endAttempt attempt error).event = record.event := by
  have last := congrArg List.getLast? (record.endAttempt_deviceIds attempt error)
  simp only [List.getLast?_map] at last
  simp only [event, last, endAttempt_attemptCount]
  rfl

namespace SchedulerWorld

open Scheduler

variable {config : SchedulerConfig} {world after : SchedulerWorld} {action : SchedulerAction}
variable {worker index : Nat} {point : Point} {record new : TaskRecord} {old : Worker}

/-- A worker that moves on one record. -/
theorem Rewrites.of_moved (state : Worker) (found : world.scheduler.workers[worker]? = some old)
    (own : ∀ held point, old = .busy held point → held = index)
    (known : world.scheduler.records[index]? = some record)
    (same : new.correlationId = record.correlationId)
    (records : after.scheduler.records = world.scheduler.records.set index new)
    (workers : after.scheduler.workers = world.scheduler.workers.set worker state) :
    Rewrites world after worker index record new where
  known := known
  same := same
  records := records
  others other apart := by rw [workers, List.getElem?_set_ne (Ne.symm apart)]
  own held point busy := own held point (Option.some.inj (found.symm.trans busy))

/-- A worker inside a call is on one record. -/
theorem busy_own {held : Nat} {place : Point} (same : Worker.busy index point =
    .busy held place) : held = index := by
  cases same
  rfl

/-- A worker that awaits no release moves, and no record is rewritten. -/
theorem Telling.of_moved (state : Worker) (found : world.scheduler.workers[worker]? = some old)
    (awake : awaitsRelease old = false)
    (records : after.scheduler.records = world.scheduler.records)
    (published : after.scheduler.published = world.scheduler.published)
    (workers : after.scheduler.workers = world.scheduler.workers.set worker state) :
    Telling world after := by
  refine .still records published ?_
  rintro index ⟨other, lease, waits⟩
  refine ⟨other, lease, ?_⟩
  have apart : other ≠ worker := by
    rintro rfl
    rw [Option.some.inj (found.symm.trans waits)] at awake
    cases awake
  rw [workers, List.getElem?_set_ne (Ne.symm apart)]
  exact waits

/-- A worker that awaits no release unwinds. -/
theorem Telling.of_unwind {scheduler : Scheduler} {lease : Option Lease}
    (busy : world.scheduler.workers[worker]? = some (.busy index point))
    (awake : awaitsRelease (.busy index point) = false)
    (records : scheduler.records = world.scheduler.records)
    (published : scheduler.published = world.scheduler.published)
    (workers : scheduler.workers = world.scheduler.workers) :
    Telling world (world.withScheduler (scheduler.unwind worker index lease)) := by
  obtain ⟨moved, quiet, -⟩ := scheduler.unwind_view worker index lease
  exact .of_moved _ busy awake ((records_unwind _ _ _ _).trans records) (quiet.trans published)
    (by rw [← workers]; exact moved)

/-- Where `_requeue` goes, it announces the record or leaves its event alone. -/
theorem Telling.of_requeue (middle : TaskRecord) {lease : Option Lease} {next : Scheduler}
    (busy : world.scheduler.workers[worker]? = some (.busy index point))
    (awake : awaitsRelease (.busy index point) = false)
    (known : world.scheduler.records[index]? = some record)
    (same : middle.correlationId = record.correlationId) (event : middle.event = record.event)
    (went : Requeue { world.scheduler with records := world.scheduler.records.set index middle }
      worker index middle lease next) : Telling world (world.withScheduler next) := by
  have own : ∀ held place, Worker.busy index point = .busy held place → held = index := by
    rintro held place ⟨⟩
    rfl
  cases went with
  | exhausted error spent =>
    refine .told worker index record
      { middle with state := .failed, result := none, error := some error } ?_ rfl
    exact .of_moved _ busy own known same (by simp [withScheduler, advance]) rfl
  | delayed delay left small =>
    refine .told worker index record { middle with state := .pending } ?_ rfl
    exact .of_moved _ busy own known same (by simp [withScheduler, advance]) rfl
  | overflow left large =>
    obtain ⟨workers, published, -⟩ := unwind_view { world.scheduler with
      records := world.scheduler.records.set index middle } worker index lease
    refine .quiet worker index record middle ?_ event published ?_
    · exact .of_moved _ busy own known same (records_unwind _ _ _ _) workers
    · intro lease waits
      rw [Option.some.inj (busy.symm.trans waits)] at awake
      cases awake

/-- A record that is written as it is changes none. -/
theorem records_itself (known : world.scheduler.records[index]? = some record) :
    world.scheduler.records.set index record = world.scheduler.records := by
  obtain ⟨bound, rfl⟩ := List.getElem?_eq_some_iff.mp known
  simp

/-- What follows a token announces ABANDONED, or rewrites no record. -/
theorem Telling.of_take (taskId : TaskId) (rest : List (Option TaskId))
    (idle : world.scheduler.workers[worker]? = some .idle) :
    Telling world
      (world.withScheduler (world.scheduler.takeTask world.registry worker taskId rest)) := by
  have went := Scheduler.takeTask_cases world.registry worker taskId rest world.scheduler
  generalize world.scheduler.takeTask world.registry worker taskId rest = after at went ⊢
  cases went with
  | skipped skips =>
    exact .of_moved .idle idle rfl (records_leave _ _) (published_leave _ _) (workers_leave _ _)
  | raised index record error named known unskipped raised =>
    exact .of_moved .idle idle rfl (records_leave _ _) (published_leave _ _) (workers_leave _ _)
  | abandoned index record error named known unskipped =>
    refine .told worker index record
      { record with state := .abandoned, result := none, error := error } ?_ rfl
    exact .of_moved _ idle (fun _ _ same => by cases same) known rfl rfl rfl
  | acquiring index record named known unskipped =>
    exact .of_moved _ idle rfl (records_itself known) (by simp [withScheduler, advance]) rfl

/-- Where the sink returns, no record is rewritten. -/
theorem Telling.of_sinkReturned {scheduler : Scheduler}
    (busy : world.scheduler.workers[worker]? = some (.busy index point))
    (went : world.scheduler.sinkReturned worker index record point = some scheduler) :
    Telling world (world.withScheduler scheduler) := by
  cases point with
  | abandoning | announcing =>
    cases went
    exact .of_moved .idle busy rfl (records_leave _ _) (published_leave _ _) (workers_leave _ _)
  | starting lease attempt =>
    cases went
    exact .of_moved _ busy rfl rfl rfl rfl
  | requeueing lease delay | failing lease =>
    cases went
    exact .of_unwind busy rfl rfl rfl rfl
  | acquiring | executing | quarantining | releasing => cases went

/-- A target that ends gives a result to announce later, or its failure goes to `_requeue` or to
the monitor. -/
theorem Telling.of_executed {outcome : Outcome} {lease : Lease} {attempt : Nat}
    {scheduler : Scheduler}
    (busy : world.scheduler.workers[worker]? = some (.busy index (.executing lease attempt)))
    (known : world.scheduler.records[index]? = some record)
    (went : Ended config world.registry world.scheduler worker index
      (record.endAttempt attempt (attemptError config record outcome)) lease outcome scheduler) :
    Telling world (world.withScheduler scheduler) := by
  have settles : ∀ new : TaskRecord, new.correlationId = record.correlationId →
      new.state.deferred = true → Telling world (world.withScheduler
        (world.scheduler.advance worker index new (.releasing lease) [])) := by
    intro new same deferred
    obtain ⟨inside, -⟩ := List.getElem?_eq_some_iff.mp busy
    refine .settled worker index record new ?_ (by simp [withScheduler, advance]) deferred
      ⟨worker, lease, advance_worker inside⟩
    exact .of_moved _ busy (fun _ _ => busy_own) known same rfl rfl
  cases went with
  | succeeded value => exact settles _ rfl rfl
  | rejected message => exact settles _ rfl rfl
  | blamed outcome reason wired blames online =>
    refine .quiet worker index record
      (record.endAttempt attempt (attemptError config record outcome)) ?_
      (record.event_endAttempt _ _) (by simp [withScheduler, advance]) ?_
    · exact .of_moved _ busy (fun _ _ => busy_own) known rfl rfl rfl
    · intro other waits
      cases busy.symm.trans waits
  | requeued outcome after fails excused went =>
    exact .of_requeue (record.endAttempt attempt (attemptError config record outcome)) busy rfl
      known rfl (record.event_endAttempt _ _) went

/-- **Every step tells.** -/
theorem telling_step (correlated : Correlated world action)
    (taken : step config world action = some after) : Telling world after := by
  cases step_effect taken with
  | submit spec correlationId =>
    simp only [Scheduler.submit]
    split
    · exact .submits { spec := spec, correlationId := correlationId } rfl rfl rfl rfl (.inl rfl)
        correlated
    · exact .submits _ rfl rfl rfl rfl (.inr rfl) correlated
  | start =>
    simp only [Scheduler.start]
    split
    · exact .still rfl rfl fun _ => id
    · refine .still rfl rfl ?_
      rintro index ⟨worker, lease, waits⟩
      obtain ⟨inside, -⟩ := List.getElem?_eq_some_iff.mp waits
      exact ⟨worker, lease, (List.getElem?_append_left inside).trans waits⟩
  | stop =>
    simp only [Scheduler.stop]
    split <;> exact .still rfl rfl fun _ => id
  | stopped call stopping => exact .still rfl rfl fun _ => id
  | pill worker rest idle head => exact .of_moved .exited idle rfl rfl rfl rfl
  | take worker taskId rest idle head => exact .of_take taskId rest idle
  | leased worker token index record device attempts busy known free fresh length =>
    refine .told worker index record { record with attempts := attempts, state := .running } ?_ rfl
    exact .of_moved _ busy (fun _ _ => busy_own) known rfl rfl rfl
  | leaseTimeout worker draw index record after busy known went =>
    exact .of_requeue record busy rfl known rfl rfl (by rwa [records_itself known])
  | leaseError worker index record error busy known raised =>
    exact .of_moved .idle busy rfl (records_leave _ _) (published_leave _ _) (workers_leave _ _)
  | sinkReturned worker index point record after busy known went => exact .of_sinkReturned busy went
  | sinkRaised worker index point record after busy known went =>
    have awake : awaitsRelease (.busy index point) = false := by
      cases point with
      | releasing lease => cases went
      | _ => rfl
    obtain ⟨lease, rfl⟩ := Scheduler.sinkRaised_unwind went
    exact .of_unwind busy awake rfl rfl rfl
  | executed worker outcome draw index lease attempt record ended after busy known same went =>
    subst same
    exact .of_executed busy known went
  | quarantined worker draw index lease reason record after busy known went =>
    exact .of_requeue record busy rfl known rfl rfl (by rwa [records_itself known])
  | quarantineRaised worker index lease reason record busy known =>
    exact .of_moved _ busy rfl (records_itself known) (by simp [withScheduler, advance]) rfl
  | releasedQuietly worker index lease record busy known pending =>
    refine .quiet worker index record record ?_ rfl (published_leave _ _) fun _ _ => pending
    exact .of_moved .idle busy (fun _ _ => busy_own) known rfl
      ((records_leave _ _).trans (records_itself known).symm) (workers_leave _ _)
  | released worker index lease record busy known settled =>
    refine .told worker index record record ?_ rfl
    exact .of_moved _ busy (fun _ _ => busy_own) known rfl rfl rfl
  | retryDue position retry found =>
    exact .still (by simp [withScheduler]) (by simp [withScheduler])
      fun _ => by simp [Withholds, withScheduler]
  | others registry => exact .still rfl rfl fun _ => id

/-- **The feed shows every record.** -/
structure Mirrors (world : SchedulerWorld) : Prop where
  /-- Records have correlation ids of their own. -/
  apart : ∀ (index other : Nat) (record record' : TaskRecord),
    world.scheduler.records[index]? = some record →
    world.scheduler.records[other]? = some record' →
    record.correlationId = record'.correlationId → index = other
  /-- Every event is one of a record. -/
  source : ∀ event ∈ world.scheduler.published, ∃ record ∈ world.scheduler.records,
    record.correlationId = event.correlationId
  /-- Every record is shown. -/
  shown : ∀ (index : Nat) (record : TaskRecord),
    world.scheduler.records[index]? = some record → Shown world index record

/-- Nothing is shown at the start. -/
theorem Mirrors.initial : Mirrors {} where
  apart _ _ _ _ known := nomatch known
  source _ member := nomatch member
  shown _ _ known := nomatch known

/-- Records that are not rewritten are shown by the same events. -/
theorem Shown.stay (shown : Shown world index record)
    (same : after.lastEvent record.correlationId = world.lastEvent record.correlationId)
    (kept : world.Withholds index → after.Withholds index) : Shown after index record := by
  cases shown with
  | mirrored mirrored => exact .mirrored (same.trans mirrored)
  | unannounced unseen unused fresh => exact .unannounced (same.trans unseen) unused fresh
  | withheld settled withholds => exact .withheld settled (kept withholds)

namespace Rewrites

/-- The records after a rewriting. -/
theorem cases (rewrites : Rewrites world after worker index record new) {position : Nat}
    {found : TaskRecord} (there : after.scheduler.records[position]? = some found) :
    (position = index ∧ found = new) ∨
      (position ≠ index ∧ world.scheduler.records[position]? = some found) := by
  rw [rewrites.records] at there
  rcases Slots.getElem?_rewritten there with ⟨rfl, rfl⟩ | ⟨apart, earlier⟩
  · exact .inl ⟨rfl, rfl⟩
  · exact .inr ⟨apart, earlier⟩

/-- A worker that works on another record withholds its result as before. -/
theorem withholds (rewrites : Rewrites world after worker index record new) {position : Nat}
    (apart : position ≠ index) (withholds : world.Withholds position) :
    after.Withholds position := by
  obtain ⟨other, lease, waits⟩ := withholds
  refine ⟨other, lease, ?_⟩
  rw [rewrites.others other]
  · exact waits
  · rintro rfl
    exact apart (rewrites.own _ _ waits)

/-- Correlation ids stay apart. -/
theorem apart (rewrites : Rewrites world after worker index record new)
    (mirrors : world.Mirrors) (position other : Nat) (found found' : TaskRecord)
    (there : after.scheduler.records[position]? = some found)
    (there' : after.scheduler.records[other]? = some found')
    (same : found.correlationId = found'.correlationId) : position = other := by
  rcases rewrites.cases there with ⟨rfl, rfl⟩ | ⟨-, earlier⟩
  · rcases rewrites.cases there' with ⟨rfl, rfl⟩ | ⟨-, earlier'⟩
    · rfl
    · exact mirrors.apart _ _ _ _ rewrites.known earlier' (rewrites.same.symm.trans same)
  · rcases rewrites.cases there' with ⟨rfl, rfl⟩ | ⟨-, earlier'⟩
    · exact mirrors.apart _ _ _ _ earlier rewrites.known (same.trans rewrites.same)
    · exact mirrors.apart _ _ _ _ earlier earlier' same

/-- A correlation id of a record stays one of a record. -/
theorem source (rewrites : Rewrites world after worker index record new) {correlationId : String}
    (source : ∃ record ∈ world.scheduler.records, record.correlationId = correlationId) :
    ∃ record ∈ after.scheduler.records, record.correlationId = correlationId := by
  obtain ⟨holder, member, same⟩ := source
  obtain ⟨position, found⟩ := List.getElem?_of_mem member
  obtain ⟨bound, -⟩ := List.getElem?_eq_some_iff.mp rewrites.known
  by_cases here : position = index
  · subst here
    obtain rfl := Option.some.inj (found.symm.trans rewrites.known)
    refine ⟨new, ?_, rewrites.same.trans same⟩
    rw [rewrites.records]
    exact List.mem_of_getElem? (i := position) (by simp [bound])
  · refine ⟨holder, ?_, same⟩
    rw [rewrites.records]
    exact List.mem_of_getElem? (i := position) (by rwa [List.getElem?_set_ne (Ne.symm here)])

end Rewrites

/-- A record and a new one with the same event stand at the same point. -/
theorem event_eq_iff : new.event = record.event ↔
    new.spec.id = record.spec.id ∧ new.correlationId = record.correlationId ∧
      new.state = record.state ∧ new.attemptCount = record.attemptCount ∧
      new.attempts.getLast?.map Attempt.deviceId = record.attempts.getLast?.map Attempt.deviceId ∧
      new.error = record.error := by
  simp [TaskRecord.event]

/-- What is published stays the latest event of every correlation id. -/
theorem lastEvent_same (published : after.scheduler.published = world.scheduler.published)
    (correlationId : String) : after.lastEvent correlationId = world.lastEvent correlationId := by
  rw [lastEvent, lastEvent, published]

/-- A record that is rewritten and announced is shown by the announcement. -/
theorem Mirrors.told (mirrors : world.Mirrors) (rewrites : Rewrites world after worker index
    record new) (published : after.scheduler.published = world.scheduler.published ++ [new.event]) :
    after.Mirrors := by
  refine ⟨rewrites.apart mirrors, fun event member => ?_, fun position found there => ?_⟩
  · rw [published] at member
    rcases List.mem_append.mp member with earlier | last
    · exact rewrites.source (mirrors.source event earlier)
    · obtain rfl := List.mem_singleton.mp last
      exact rewrites.source ⟨record, List.mem_of_getElem? rewrites.known, rewrites.same.symm⟩
  · rcases rewrites.cases there with ⟨rfl, rfl⟩ | ⟨apart, earlier⟩
    · refine .mirrored ?_
      rw [lastEvent, published]
      exact Latest.latest_concat _ found.event
    · have other : new.event.correlationId ≠ found.correlationId := fun same =>
        apart (mirrors.apart _ _ _ _ earlier rewrites.known (same.symm.trans rewrites.same))
      refine (mirrors.shown position found earlier).stay ?_ (rewrites.withholds apart)
      rw [lastEvent, lastEvent, published]
      exact Latest.latest_concat_other _ other

/-- Rewriting one record silently leaves the others shown, if it is shown itself. -/
theorem Mirrors.rewritten (mirrors : world.Mirrors) (rewrites : Rewrites world after worker index
    record new) (published : after.scheduler.published = world.scheduler.published)
    (shown : Shown after index new) : after.Mirrors := by
  refine ⟨rewrites.apart mirrors, fun event member => ?_, fun position found there => ?_⟩
  · rw [published] at member
    exact rewrites.source (mirrors.source event member)
  · rcases rewrites.cases there with ⟨rfl, rfl⟩ | ⟨apart, earlier⟩
    · exact shown
    · exact (mirrors.shown position found earlier).stay (lastEvent_same published _)
        (rewrites.withholds apart)

/-- A record with the same event is shown as it was. -/
theorem Shown.quiet (shown : Shown world index record) (rewrites : Rewrites world after worker
    index record new) (event : new.event = record.event)
    (published : after.scheduler.published = world.scheduler.published)
    (free : ∀ lease, world.scheduler.workers[worker]? = some (.busy index (.releasing lease)) →
      record.state = .pending) : Shown after index new := by
  obtain ⟨-, same, state, count, -⟩ := event_eq_iff.mp event
  cases shown with
  | mirrored mirrored =>
    exact .mirrored (by rw [lastEvent_same published, same, event, mirrored])
  | unannounced unseen unused fresh =>
    exact .unannounced (by rw [lastEvent_same published, same, unseen]) (count.trans unused)
      (by rwa [state])
  | withheld settled withholds =>
    refine .withheld (by rwa [state]) ?_
    obtain ⟨other, lease, waits⟩ := withholds
    refine ⟨other, lease, ?_⟩
    rw [rewrites.others other]
    · exact waits
    · rintro rfl
      rw [free lease waits] at settled
      cases settled

/-- A new record has not been announced. -/
theorem Mirrors.submits (mirrors : world.Mirrors)
    (records : after.scheduler.records = world.scheduler.records ++ [new])
    (published : after.scheduler.published = world.scheduler.published)
    (workers : after.scheduler.workers = world.scheduler.workers) (unused : new.attemptCount = 0)
    (fresh : new.state = .pending ∨ new.state = .rejected)
    (apart : ∀ record ∈ world.scheduler.records, record.correlationId ≠ new.correlationId) :
    after.Mirrors := by
  have unseen : after.lastEvent new.correlationId = none := by
    rw [lastEvent_same published]
    apply Latest.latest_none
    intro event member same
    obtain ⟨record, known, source⟩ := mirrors.source event member
    exact apart record known (source.trans same)
  refine ⟨fun index other record record' there there' same => ?_, fun event member => ?_,
    fun index record there => ?_⟩
  · rw [records] at there there'
    rcases Slots.getElem?_concat there with ⟨rfl, rfl⟩ | ⟨-, earlier⟩
    · rcases Slots.getElem?_concat there' with ⟨rfl, rfl⟩ | ⟨-, earlier'⟩
      · rfl
      · exact absurd same.symm (apart record' (List.mem_of_getElem? earlier'))
    · rcases Slots.getElem?_concat there' with ⟨rfl, rfl⟩ | ⟨-, earlier'⟩
      · exact absurd same (apart record (List.mem_of_getElem? earlier))
      · exact mirrors.apart _ _ _ _ earlier earlier' same
  · rw [published] at member
    obtain ⟨record, known, source⟩ := mirrors.source event member
    exact ⟨record, by simp [records, known], source⟩
  · rw [records] at there
    rcases Slots.getElem?_concat there with ⟨rfl, rfl⟩ | ⟨-, earlier⟩
    · exact .unannounced unseen unused fresh
    · exact (mirrors.shown index record earlier).stay (lastEvent_same published _)
        (by simp [Withholds, workers])

/-- **A step keeps every record shown.** -/
theorem Mirrors.step (mirrors : world.Mirrors) (telling : Telling world after) :
    after.Mirrors := by
  cases telling with
  | told worker index record new rewrites published => exact mirrors.told rewrites published
  | quiet worker index record new rewrites event published free =>
    exact mirrors.rewritten rewrites published
      ((mirrors.shown index record rewrites.known).quiet rewrites event published free)
  | settled worker index record new rewrites published deferred withholds =>
    exact mirrors.rewritten rewrites published (.withheld deferred withholds)
  | still records published kept =>
    refine ⟨?_, ?_, fun index record there => ?_⟩
    · rw [records]
      exact mirrors.apart
    · rw [records, published]
      exact mirrors.source
    · rw [records] at there
      exact (mirrors.shown index record there).stay (lastEvent_same published _) (kept index)
  | submits new records published workers unused fresh apart =>
    exact mirrors.submits records published workers unused fresh apart

/-- Every run in which submissions get correlation ids of their own mirrors. -/
theorem mirrors_run (run : Transition.Run (step config) Correlated {} world) : world.Mirrors := by
  apply run.invariant Mirrors Mirrors.initial
  intro state action after _ mirrors correlated taken
  exact mirrors.step (telling_step correlated taken)

/-- **The feed mirrors the records.** In every run in which submissions get correlation ids of
their own, whatever is raised and whichever ids are submitted again: the latest event with the
correlation id of a record shows the record as it is, or there is none and the record has had no
attempt, or the record has a result that its worker announces when it has released the lease. -/
theorem feed_mirrors (run : Transition.Run (step config) Correlated {} world) (index : Nat)
    (record : TaskRecord) (known : world.scheduler.records[index]? = some record) :
    Shown world index record :=
  (mirrors_run run).shown index record known

end SchedulerWorld

namespace Bench

/-- A task has its result, and its worker still has the lease. -/
def resultWithheld : List SchedulerAction :=
  [.others registry, .start, .submit spec "first", .take 0, .leased 0 0, .sinkReturned 0,
    .executed 0 (.result .null) 0]

end Bench

namespace SchedulerWorld

/-- The feed still shows RUNNING, and the result is withheld. -/
theorem feed_mirrors_withheld : ∃ (world : SchedulerWorld) (record : TaskRecord),
    world.scheduler.records[0]? = some record ∧ record.state = .succeeded ∧
      (world.lastEvent record.correlationId).map StateEvent.state = some .running ∧
      Shown world 0 record := by
  have passed : (Transition.execute (Transition.guarded (step Bench.config) Correlated) {}
      Bench.resultWithheld).any (fun world => world.scheduler.records[0]?.any fun record =>
        decide (record.state = .succeeded ∧
          (world.lastEvent record.correlationId).map StateEvent.state = some .running)) = true := by
    decide +kernel
  obtain ⟨world, run, shown⟩ := Transition.reaches passed
  obtain ⟨record, known, shown⟩ := (Option.any_eq_true _ _).mp shown
  obtain ⟨succeeded, running⟩ := of_decide_eq_true shown
  exact ⟨world, record, known, succeeded, running, feed_mirrors run 0 record known⟩

end SchedulerWorld

end DeviceOrchestrator
