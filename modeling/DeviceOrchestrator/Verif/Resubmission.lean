import DeviceOrchestrator.Verif.Carriage

/-!
# Submitting an id again

The queue carries ids while the state lives in records, and `submit` gives an id to a new record
whether or not the old one has ended. Runs whose steps are `Careful` keep custody: no record is
executed twice at a time, none is lost, none outgrows its attempts and an ended record stays as
it is. Two short runs show what a careless `submit` does.
-/
namespace DeviceOrchestrator

/-- The awaits that announce a state which the record does not survive losing: RUNNING, before
the `try`, and PENDING, before the retry is created. -/
def Point.critical : Point → Bool
  | starting _ _ | requeueing _ _ => true
  | _ => false

/-- The await after which the retry is created. -/
def Point.requeues : Point → Bool
  | requeueing _ _ => true
  | _ => false

namespace SchedulerWorld

/-- **The careful steps.** An id is submitted only while none of its tokens wait, with a
specification that is tractable if its kind is registered; a retry is created only for the
record that its id still names; the RUNNING and PENDING announcements return, and so does the
health monitor. -/
def Careful (config : SchedulerConfig) (world : SchedulerWorld) : SchedulerAction → Prop
  | .submit spec _ => world.scheduler.tokens spec.id = 0 ∧
      (spec.kind ∈ config.kinds → spec.tractable = true)
  | .sinkReturned worker => ∀ held ∈ world.at? worker,
      held.2.1.requeues = true → world.scheduler.table held.2.2.spec.id = some held.1
  | .sinkRaised worker => ∀ held ∈ world.at? worker, held.2.1.critical = false
  | .quarantineRaised _ => False
  | _ => True

instance (config : SchedulerConfig) (world : SchedulerWorld) :
    ∀ action, Decidable (Careful config world action)
  | .submit _ _ => inferInstanceAs (Decidable (_ ∧ _))
  | .sinkReturned worker => inferInstanceAs (Decidable (∀ held ∈ world.at? worker, _))
  | .sinkRaised worker => inferInstanceAs (Decidable (∀ held ∈ world.at? worker, _))
  | .quarantineRaised _ => inferInstanceAs (Decidable False)
  | .start | .stop | .stopped _ | .take _ | .leased _ _ | .leaseTimeout _ _ | .leaseError _
  | .executed _ _ _ | .quarantined _ _ | .released _ | .retryDue _ | .others _ =>
    inferInstanceAs (Decidable True)

/-- The runs the guarantee is about: ids are distinct, and neither the sink nor the health
monitor raises. -/
def Distinct (world : SchedulerWorld) : SchedulerAction → Prop
  | .submit spec _ => world.scheduler.table spec.id = none
  | .sinkRaised _ | .quarantineRaised _ => False
  | _ => True

instance (world : SchedulerWorld) : ∀ action, Decidable (Distinct world action)
  | .submit _ _ => inferInstanceAs (Decidable (_ = _))
  | .sinkRaised _ | .quarantineRaised _ => inferInstanceAs (Decidable False)
  | .start | .stop | .stopped _ | .take _ | .leased _ _ | .leaseTimeout _ _ | .leaseError _
  | .sinkReturned _ | .executed _ _ _ | .quarantined _ _ | .released _ | .retryDue _
  | .others _ => inferInstanceAs (Decidable True)

/-- A submitted specification of a registered kind is tractable. -/
def Tractable (config : SchedulerConfig) : SchedulerAction → Prop
  | .submit spec _ => spec.kind ∈ config.kinds → spec.tractable = true
  | _ => True

instance (config : SchedulerConfig) : ∀ action, Decidable (Tractable config action)
  | .submit _ _ => inferInstanceAs (Decidable (_ → _))
  | .sinkRaised _ | .quarantineRaised _ | .start | .stop | .stopped _ | .take _ | .leased _ _
  | .leaseTimeout _ _ | .leaseError _ | .sinkReturned _ | .executed _ _ _ | .quarantined _ _
  | .released _ | .retryDue _ | .others _ => inferInstanceAs (Decidable True)

variable {config : SchedulerConfig} {world after : SchedulerWorld} {action : SchedulerAction}

open Scheduler

/-- Taking a task under custody. -/
theorem takeTask_handover {scheduler : Scheduler} (carried : scheduler.Carried) {worker : Nat}
    (idle : scheduler.workers[worker]? = some .idle) {taskId : TaskId}
    {rest : List (Option TaskId)} (head : scheduler.queue = some taskId :: rest)
    (registry : Registry) :
    Handover scheduler (scheduler.takeTask registry worker taskId rest) := by
  have waits : scheduler.tokens taskId ≠ 0 := by
    simp [tokens, head]
  obtain ⟨index, names, live, unheld⟩ := carried.sound.named taskId waits
  have names : scheduler.table taskId = some index := names
  obtain ⟨record, known, -⟩ := Option.bind_eq_some_iff.mp live
  have unended : record.state.terminal = false := by
    by_contra ended
    simp [custody, known, TaskRecord.liveId, ended] at live
  have taken : ∀ {after : Scheduler}, after.records = scheduler.records →
      after.table = scheduler.table → after.queue = rest → after.retries = scheduler.retries →
      after.workers = scheduler.workers.set worker (.busy index .acquiring) →
      Handover scheduler after := fun records table queue retries workers =>
    carried.take idle waits names known records table (tokens_dequeued head queue retries) workers
  obtain ⟨inside, -⟩ := List.getElem?_eq_some_iff.mp idle
  obtain ⟨bound, here⟩ := List.getElem?_eq_some_iff.mp known
  have went := takeTask_cases registry worker taskId rest scheduler
  generalize scheduler.takeTask registry worker taskId rest = after at went ⊢
  cases went with
  | skipped skips =>
    rcases skips index record names known with ended | ended <;>
      simp [ended, TaskState.terminal] at unended
  | raised other record' error names' known' unskipped raised =>
    obtain rfl := Option.some.inj (names.symm.trans names')
    obtain rfl := Option.some.inj (known.symm.trans known')
    have evaluable := carried.phased.tractable index record known unended
    simp only [TaskSpec.tractable, Bool.and_eq_true] at evaluable
    obtain ⟨answer, answered⟩ := registry.couldEverMatch_ok evaluable.1
    rw [answered] at raised
    cases raised
  | acquiring other record' names' known' unskipped =>
    obtain rfl := Option.some.inj (names.symm.trans names')
    obtain rfl := Option.some.inj (known.symm.trans known')
    exact taken (by simp [advance, ← here]) rfl rfl rfl rfl
  | abandoned other record' error names' known' unskipped =>
    obtain rfl := Option.some.inj (names.symm.trans names')
    obtain rfl := Option.some.inj (known.symm.trans known')
    -- The worker takes the record and ends it before it suspends.
    let middle := ({ scheduler with
      queue := rest
      inflight := scheduler.inflight + 1 } : Scheduler).place worker (.busy index .acquiring)
    have first : Handover scheduler middle := taken rfl rfl rfl rfl rfl
    have busy : middle.workers[worker]? = some (.busy index .acquiring) := by
      simp [middle, place, inside]
    have still : middle.records[index]? = some record := known
    let abandoned : TaskRecord :=
      { record with state := .abandoned, result := none, error := error }
    have within : abandoned.Within := ⟨(carried.phased.within index record known).1, (by simp)⟩
    have same : abandoned.spec = record.spec := rfl
    have second : Handover middle (middle.advance worker index abandoned .abandoning
        [abandoned.event]) :=
      (carried.handed first).advance busy rfl still same within .abandoning rfl _
    refine first.trans ?_
    simpa [middle, place, advance] using second

/-- A worker that answers for no record goes idle. -/
theorem left_handover {scheduler : Scheduler} (carried : scheduler.Carried) {worker index : Nat}
    {point : Point} (busy : scheduler.workers[worker]? = some (.busy index point))
    (resting : point.active = false) : Handover scheduler (scheduler.leave worker) :=
  carried.drift busy (by simp [Worker.holds, resting]) (by simp [Worker.holds])
    (records_leave _ _) (table_leave _ _) (by funext; simp [tokens]) (workers_leave _ _)

/-- A worker that answers for no record goes idle, or on to release its lease. -/
theorem unwound_handover {scheduler : Scheduler} (carried : scheduler.Carried)
    {worker index : Nat} {point : Point}
    (busy : scheduler.workers[worker]? = some (.busy index point))
    (resting : point.active = false) (lease : Option Lease) :
    Handover scheduler (scheduler.unwind worker index lease) := by
  cases lease with
  | none => exact left_handover carried busy resting
  | some lease =>
    exact carried.drift busy (by simp [Worker.holds, resting])
      (by simp [Worker.holds, Point.active]) rfl rfl rfl rfl

/-- What follows a sink that returned, under custody. -/
theorem sinkReturned_handover {scheduler after : Scheduler} (carried : scheduler.Carried)
    {worker index : Nat} {point : Point} {record : TaskRecord}
    (busy : scheduler.workers[worker]? = some (.busy index point))
    (known : scheduler.records[index]? = some record)
    (current : point.requeues = true → scheduler.table record.spec.id = some index)
    (went : scheduler.sinkReturned worker index record point = some after) :
    Handover scheduler after := by
  cases point with
  | abandoning =>
    cases went
    exact left_handover carried busy rfl
  | announcing =>
    cases went
    exact left_handover carried busy rfl
  | starting lease attempt =>
    cases went
    have running : record.state = .running :=
      carried.phased.expected worker index _ record busy rfl known
    rw [place_eq known]
    exact carried.advance busy rfl known rfl (carried.phased.within index record known)
      (.executing lease attempt) running _
  | failing lease =>
    cases went
    exact unwound_handover carried busy rfl lease
  | requeueing lease delay =>
    cases went
    have names := current rfl
    cases lease with
    | none =>
      exact carried.handBack busy known names (records_leave _ _) (table_leave _ _)
        (queue_leave _ _) (retries_leave _ _) (workers_leave _ _) (by simp [Worker.holds])
    | some lease =>
      exact carried.handBack busy known names rfl rfl rfl rfl rfl
        (by simp [Worker.holds, Point.active])
  | acquiring => cases went
  | executing lease attempt => cases went
  | quarantining lease reason => cases went
  | releasing lease => cases went

/-- What follows a sink that raised where nothing is lost, under custody. -/
theorem sinkRaised_handover {scheduler after : Scheduler} (carried : scheduler.Carried)
    {worker index : Nat} {point : Point}
    (busy : scheduler.workers[worker]? = some (.busy index point))
    (safe : point.critical = false)
    (went : scheduler.sinkRaised worker index point = some after) :
    Handover scheduler after := by
  cases point with
  | abandoning =>
    cases went
    exact left_handover carried busy rfl
  | announcing =>
    cases went
    exact left_handover carried busy rfl
  | failing lease =>
    cases went
    exact unwound_handover carried busy rfl lease
  | starting lease attempt => cases safe
  | requeueing lease delay => cases safe
  | acquiring => cases went
  | executing lease attempt => cases went
  | quarantining lease reason => cases went
  | releasing lease => cases went

/-- A target that ended, under custody. -/
theorem ended_handover {scheduler after : Scheduler} (carried : scheduler.Carried)
    {worker index attempt : Nat} {lease : Lease} {record new : TaskRecord}
    {registry : Registry} {outcome : Outcome}
    (busy : scheduler.workers[worker]? = some (.busy index (.executing lease attempt)))
    (known : scheduler.records[index]? = some record) (same : new.spec = record.spec)
    (phase : new.state = record.state) (count : new.attemptCount = record.attemptCount)
    (went : Ended config registry scheduler worker index new lease outcome after) :
    Handover scheduler after := by
  have running : record.state = .running :=
    carried.phased.expected worker index _ record busy rfl known
  have within : new.attemptCount ≤ max 1 new.spec.maxAttempts := by
    rw [count, same]
    exact (carried.phased.within index record known).1
  have unwaiting : new.Within := ⟨within, fun pending => by
    rw [phase, running] at pending
    cases pending⟩
  obtain ⟨inside, -⟩ := List.getElem?_eq_some_iff.mp busy
  obtain ⟨bound, -⟩ := List.getElem?_eq_some_iff.mp known
  cases went with
  | succeeded value =>
    have done : ({ new with
        state := .succeeded, result := some value, error := none } : TaskRecord).Within :=
      ⟨within, nofun⟩
    exact carried.advance busy rfl known (by exact same) done (.releasing lease) rfl _
  | rejected message =>
    have done : ({ new with
        state := .rejected, result := none, error := some message } : TaskRecord).Within :=
      ⟨within, nofun⟩
    exact carried.advance busy rfl known (by exact same) done (.releasing lease) rfl _
  | blamed outcome reason wired blames online =>
    exact carried.advance busy rfl known same unwaiting (.quarantining lease reason)
      (phase.trans running) _
  | requeued outcome after fails excused went =>
    -- The attempt is ended first, then `_requeue` runs on the record as it is now.
    let middle : Scheduler := { scheduler with records := scheduler.records.set index new }
    have still : scheduler.workers.set worker (.busy index (.executing lease attempt)) =
        scheduler.workers := by
      obtain ⟨_, here⟩ := List.getElem?_eq_some_iff.mp busy
      rw [← here, List.set_getElem_self]
    have first : Handover scheduler middle := by
      have moved := carried.advance busy rfl known same unwaiting (.executing lease attempt)
        (phase.trans running) []
      simpa [middle, Scheduler.advance, still] using moved
    have entered : middle.records[index]? = some new := by
      simp [middle, bound]
    exact first.trans ((carried.handed first).requeue busy rfl entered went)

/-- **Every careful step is a handover**: it refines custody, keeps the phases and leaves ended
records alone. -/
theorem careful_handover (carried : world.scheduler.Carried)
    (accounted : world.scheduler.Accounted) (careful : Careful config world action)
    (taken : step config world action = some after) :
    Handover world.scheduler after.scheduler := by
  cases step_effect taken with
  | submit spec correlationId =>
    exact carried.submit accounted config spec correlationId careful.1 careful.2
  | start =>
    simp only [withScheduler, Scheduler.start]
    split
    · exact carried.outside rfl rfl fun _ _ _ busy _ => busy
    · refine carried.outside rfl (custody_congr rfl rfl rfl ?_) ?_
      · intro index
        simp [List.countP_append, List.countP_replicate, Worker.holds]
      · intro worker index point busy active
        rcases Slots.getElem?_extended busy with earlier | fresh
        · exact earlier
        · cases List.eq_of_mem_replicate fresh
  | stop =>
    simp only [withScheduler, Scheduler.stop]
    split
    · exact carried.outside rfl (custody_congr rfl rfl (tokens_pills rfl rfl) fun _ => rfl)
        fun _ _ _ busy _ => busy
    · exact carried.outside rfl rfl fun _ _ _ busy _ => busy
  | stopped call stopping => exact carried.outside rfl rfl fun _ _ _ busy _ => busy
  | pill worker rest idle head =>
    refine carried.drift idle (by simp [Worker.holds]) (by simp [Worker.holds]) rfl rfl ?_ rfl
    funext taskId
    simp [withScheduler, place, tokens, head]
  | take worker taskId rest idle head => exact takeTask_handover carried idle head _
  | leased worker token index record device attempts busy known free fresh length =>
    have pending : record.state = .pending :=
      carried.phased.expected worker index _ record busy rfl known
    have spare := (carried.phased.within index record known).2 pending
    have running : ({ record with attempts := attempts, state := .running } :
        TaskRecord).Within := by
      refine ⟨?_, (by simp)⟩
      simp only [TaskRecord.attemptCount] at length spare ⊢
      omega
    exact carried.advance busy rfl known (by rfl) running
      (.starting ⟨device.id, token⟩ record.attemptCount) rfl _
  | leaseTimeout worker draw index record after busy known went =>
    exact carried.requeue busy rfl known went
  | leaseError worker index record error busy known raised =>
    obtain ⟨-, -, unended⟩ := carried.held busy rfl known
    have evaluable := carried.phased.tractable index record known unended
    simp only [TaskSpec.tractable, Bool.and_eq_true] at evaluable
    obtain ⟨answer, answered⟩ := world.registry.findFree_ok evaluable.1
    rw [answered] at raised
    cases raised
  | sinkReturned worker index point record after busy known went =>
    exact sinkReturned_handover carried busy known
      (careful _ (at?_eq_some.mpr ⟨busy, known⟩)) went
  | sinkRaised worker index point record after busy known went =>
    exact sinkRaised_handover carried busy (careful _ (at?_eq_some.mpr ⟨busy, known⟩)) went
  | executed worker outcome draw index lease attempt record ended after busy known same went =>
    have count : ended.attemptCount = record.attemptCount := by simp [same]
    exact ended_handover carried busy known (by rw [same]; rfl) (by rw [same]; rfl) count went
  | quarantined worker draw index lease reason record after busy known went =>
    exact carried.requeue busy rfl known went
  | quarantineRaised worker index lease reason record busy known => exact careful.elim
  | releasedQuietly worker index lease record busy known pending =>
    exact left_handover carried busy rfl
  | released worker index lease record busy known settled =>
    obtain ⟨bound, rfl⟩ := List.getElem?_eq_some_iff.mp known
    exact carried.drift busy (by simp [Worker.holds, Point.active])
      (by simp [Worker.holds, Point.active]) (by simp [Scheduler.advance]) rfl rfl rfl
  | retryDue position retry found =>
    refine carried.outside (by simp [withScheduler]) (custody_congr (by simp [withScheduler])
      (by simp [withScheduler]) (tokens_woken found (by simp [withScheduler])
        (by simp [withScheduler])) (by simp [withScheduler])) ?_
    intro worker index point busy active
    simpa [withScheduler] using busy
  | others registry => exact carried.outside rfl rfl fun _ _ _ busy _ => busy

/-- Nothing is carried at the start. -/
theorem carried_initial : ({} : Scheduler).Carried where
  sound :=
    { single := fun _ => Nat.zero_le 1
      named := fun _ waiting => absurd rfl waiting
      exclusive := fun _ => Nat.zero_le 1
      held := fun _ holding => absurd rfl holding
      carried := fun index taskId live => by simp [custody] at live }
  phased :=
    { expected := by simp
      waiting := by simp
      within := by simp
      tractable := by simp }

/-- **Careful runs carry every record.** -/
theorem carried_run (run : Transition.Run (step config) (Careful config) {} world) :
    world.scheduler.Carried :=
  run.invariant (fun world => world.scheduler.Carried) carried_initial
    fun earlier carried careful taken =>
      carried.handed (careful_handover carried (accounted earlier) careful taken)

/-- A record that ended in a careful run stays as it is for the rest of the run. -/
theorem settled_run {later : SchedulerWorld}
    (run : Transition.Run (step config) (Careful config) {} world)
    (further : Transition.Run (step config) (Careful config) world later) {index : Nat}
    {record : TaskRecord} (known : world.scheduler.records[index]? = some record)
    (ended : record.state.terminal = true) : later.scheduler.records[index]? = some record := by
  refine further.invariant (fun later => later.scheduler.records[index]? = some record) known ?_
  intro state action next earlier still careful taken
  have whole := run.trans earlier
  exact (careful_handover (carried_run whole) (accounted whole) careful taken).settled index
    record still ended

end SchedulerWorld

/-- Somebody will go on with a record: a worker is processing it, or its id waits in the queue
or in a sleeping retry and still names it. -/
def Scheduler.HasCarrier (scheduler : Scheduler) (index : Nat) (record : TaskRecord) : Prop :=
  (∃ (worker : Nat) (point : Point), scheduler.workers[worker]? = some (.busy index point)) ∨
    (scheduler.table record.spec.id = some index ∧
      (some record.spec.id ∈ scheduler.queue ∨
        ∃ retry ∈ scheduler.retries, retry.taskId = record.spec.id))

/-- A carried live record has a carrier. -/
theorem Scheduler.Carried.hasCarrier {scheduler : Scheduler} (carried : scheduler.Carried)
    {index : Nat} {record : TaskRecord} (known : scheduler.records[index]? = some record)
    (unended : record.state.terminal = false) : scheduler.HasCarrier index record := by
  have live : scheduler.custody.live index = some record.spec.id := by
    simp [custody, known, TaskRecord.liveId, unended]
  rcases carried.sound.carried index record.spec.id live with held | ⟨names, waiting⟩
  · obtain ⟨worker, member, holding⟩ :=
      List.countP_pos_iff.mp (Nat.lt_of_lt_of_eq Nat.zero_lt_one held.symm)
    obtain ⟨position, found⟩ := List.getElem?_of_mem member
    cases worker with
    | idle => cases holding
    | exited => cases holding
    | busy held point =>
      simp only [Worker.holds, Bool.and_eq_true, beq_iff_eq] at holding
      obtain ⟨-, rfl⟩ := holding
      exact Or.inl ⟨position, point, found⟩
  · refine Or.inr ⟨names, ?_⟩
    by_cases queued : some record.spec.id ∈ scheduler.queue
    · exact .inl queued
    · have none : scheduler.queue.count (some record.spec.id) = 0 :=
        List.count_eq_zero.mpr queued
      have sleeping : 0 < scheduler.retries.countP
          fun retry => decide (retry.taskId = record.spec.id) := by
        simp only [custody, tokens, none] at waiting
        omega
      obtain ⟨retry, member, same⟩ := List.countP_pos_iff.mp sleeping
      exact .inr ⟨retry, member, by simpa using same⟩

open SchedulerWorld

/-- **Careful resubmission is safe.** In every state of a run whose steps are careful no two
workers execute one record, every record that has not ended has a carrier, no record has more
than `max(1, max_attempts)` attempts, and a record that has ended never changes again. -/
theorem resubmission_safe {config : SchedulerConfig} {world : SchedulerWorld}
    (run : Transition.Run (step config) (Careful config) {} world) :
    (∀ (first second index : Nat) (lease lease' : Lease) (attempt attempt' : Nat),
      world.scheduler.workers[first]? = some (.busy index (.executing lease attempt)) →
      world.scheduler.workers[second]? = some (.busy index (.executing lease' attempt')) →
      first = second) ∧
    (∀ (index : Nat) (record : TaskRecord), world.scheduler.records[index]? = some record →
      record.state.terminal = false → world.scheduler.HasCarrier index record) ∧
    (∀ (index : Nat) (record : TaskRecord), world.scheduler.records[index]? = some record →
      record.attemptCount ≤ max 1 record.spec.maxAttempts) ∧
    (∀ (index : Nat) (record : TaskRecord) (later : SchedulerWorld),
      world.scheduler.records[index]? = some record → record.state.terminal = true →
      Transition.Run (step config) (Careful config) world later →
      later.scheduler.records[index]? = some record) := by
  have carried := carried_run run
  refine ⟨?_, ?_, ?_, ?_⟩
  · intro first second index lease lease' attempt attempt' busy busy'
    exact carried.holder_unique busy rfl busy' rfl
  · intro index record known unended
    exact carried.hasCarrier known unended
  · intro index record known
    exact (carried.phased.within index record known).1
  · intro index record later known ended further
    exact settled_run run further known ended

namespace Bench

/-- Two workers and one kind of target. -/
def config : SchedulerConfig where
  policy := { workers := 2 }
  kinds := ["android"]

/-- Two phones, both ONLINE and free. -/
def registry : Registry where
  devices := ⟨[{ id := "phone-a" }, { id := "phone-b" }], by decide⟩

/-- A task of one attempt. -/
def spec : TaskSpec := { kind := "android", id := "demo", maxAttempts := 1 }

/-- The id is submitted again after its first record has ended. -/
def inTurn : List SchedulerAction :=
  [.others registry, .start, .submit spec "first", .take 0, .leased 0 0, .sinkReturned 0,
    .executed 0 (.result .null) 0, .released 0, .sinkReturned 0, .submit spec "second", .take 1,
    .leased 1 1, .sinkReturned 1]

/-- The id is submitted again while its first token is queued, and two workers take the two
tokens. -/
def atOnce : List SchedulerAction :=
  [.others registry, .start, .submit spec "first", .submit spec "second", .take 0, .take 1,
    .leased 0 0, .leased 1 1, .sinkReturned 0, .sinkReturned 1]

/-- The id is submitted again while its first token is queued, and the second token is taken
after the record it names has failed. -/
def afterFailure : List SchedulerAction :=
  [.others registry, .start, .submit spec "first", .submit spec "second", .take 0, .leased 0 0,
    .sinkReturned 0, .executed 0 (.retryable "no such element" false) 0, .sinkReturned 0,
    .released 0, .sinkReturned 0]

end Bench

/-- The guarantees of a careful run hold at the end of a run that submits an id twice. -/
theorem resubmission_safe_inTurn : ∃ world : SchedulerWorld,
    world.scheduler.records.length = 2 ∧
    (∀ (first second index : Nat) (lease lease' : Lease) (attempt attempt' : Nat),
      world.scheduler.workers[first]? = some (.busy index (.executing lease attempt)) →
      world.scheduler.workers[second]? = some (.busy index (.executing lease' attempt')) →
      first = second) ∧
    (∀ (index : Nat) (record : TaskRecord), world.scheduler.records[index]? = some record →
      record.state.terminal = false → world.scheduler.HasCarrier index record) ∧
    (∀ (index : Nat) (record : TaskRecord), world.scheduler.records[index]? = some record →
      record.attemptCount ≤ max 1 record.spec.maxAttempts) ∧
    (∀ (index : Nat) (record : TaskRecord) (later : SchedulerWorld),
      world.scheduler.records[index]? = some record → record.state.terminal = true →
      Transition.Run (step Bench.config) (Careful Bench.config) world later →
      later.scheduler.records[index]? = some record) := by
  have passed : (Transition.execute (Transition.guarded (step Bench.config)
      (Careful Bench.config)) {} Bench.inTurn).any
        (fun world => world.scheduler.records.length == 2) = true := by decide +kernel
  obtain ⟨world, run, two⟩ := Transition.reaches passed
  exact ⟨world, by simpa using two, resubmission_safe run⟩

/-- Nothing raises, and submitted specifications are tractable. -/
def SchedulerAction.calm : SchedulerAction → Bool
  | submit spec _ => spec.tractable
  | sinkRaised _ | quarantineRaised _ => false
  | _ => true

/-- **Careless resubmission is unsafe**, though nothing raises. Two workers execute the same
record while the other accepted record has no carrier; and a record that has failed with its one
attempt used is run again. -/
theorem resubmission_unsafe :
    (∃ world : SchedulerWorld,
      Transition.Run (step Bench.config) (fun _ action => action.calm = true) {} world ∧
      world.scheduler.workers = [.busy 1 (.executing ⟨"phone-a", 0⟩ 0),
        .busy 1 (.executing ⟨"phone-b", 1⟩ 1)] ∧
      world.scheduler.records[0]?.map TaskRecord.state = some .pending ∧
      world.scheduler.queue = [] ∧ world.scheduler.retries = []) ∧
    (∃ world later : SchedulerWorld,
      Transition.Run (step Bench.config) (fun _ action => action.calm = true) {} world ∧
      Transition.Run (step Bench.config) (fun _ action => action.calm = true) world later ∧
      world.scheduler.records[1]?.map TaskRecord.state = some .failed ∧
      later.scheduler.records[1]?.map (fun record => (record.state, record.attemptCount)) =
        some (.running, 2)) := by
  constructor
  · have passed : (Transition.execute (Transition.guarded (step Bench.config)
        fun _ action => action.calm = true) {} Bench.atOnce).any (fun world => decide
          (world.scheduler.workers = [.busy 1 (.executing ⟨"phone-a", 0⟩ 0),
            .busy 1 (.executing ⟨"phone-b", 1⟩ 1)] ∧
          world.scheduler.records[0]?.map TaskRecord.state = some .pending ∧
          world.scheduler.queue = [] ∧ world.scheduler.retries = [])) = true := by
      decide +kernel
    obtain ⟨world, run, shown⟩ := Transition.reaches passed
    exact ⟨world, run, by simpa using shown⟩
  · have passed : (Transition.execute (Transition.guarded (step Bench.config)
        fun _ action => action.calm = true) {} Bench.afterFailure).any (fun world =>
          decide (world.scheduler.records[1]?.map TaskRecord.state = some .failed) &&
            (Transition.execute (Transition.guarded (step Bench.config)
              fun _ action => action.calm = true) world [.take 0, .leased 0 1]).any fun later =>
                decide (later.scheduler.records[1]?.map (fun record =>
                  (record.state, record.attemptCount)) = some (.running, 2))) = true := by
      decide +kernel
    obtain ⟨world, run, shown⟩ := Transition.reaches passed
    simp only [Bool.and_eq_true, decide_eq_true_eq] at shown
    obtain ⟨later, further, revived⟩ := Transition.reaches shown.2
    exact ⟨world, later, run, further, shown.1, by simpa using revived⟩

end DeviceOrchestrator
