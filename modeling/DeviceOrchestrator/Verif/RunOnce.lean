import DeviceOrchestrator.Verif.Resubmission

/-!
# What one call of `_run_once` leaves behind

A call begins where the worker loop enters `_run_once` on a record and ends when the worker is
back at the queue; between its steps any other party may take steps of its own. `Strands` lists
the steps at which the call raises while its record still needs it. A call without such a step
releases its lease and leaves its record ended or with exactly one retry; a call with one leaves
the record behind.
-/
namespace DeviceOrchestrator

/-- Another attempt is due, and its backoff overflows. -/
def TaskRecord.Overflows (record : TaskRecord) : Prop :=
  record.attemptCount < record.spec.maxAttempts ∧ 1024 ≤ record.attemptCount

/-- The lease held at an await. -/
def Point.lease : Point → Option Lease
  | starting lease _ | executing lease _ | quarantining lease _ | releasing lease => some lease
  | requeueing lease _ | failing lease => lease
  | abandoning | acquiring | announcing => none

/-- The lease a worker holds. -/
def Worker.lease : Worker → Option Lease
  | busy _ point => point.lease
  | idle | exited => none

/-- The worker that an action resumes. -/
def SchedulerAction.worker? : SchedulerAction → Option Nat
  | take worker | leased worker _ | leaseTimeout worker _ | leaseError worker
  | sinkReturned worker | sinkRaised worker | executed worker _ _ | quarantined worker _
  | quarantineRaised worker | released worker => some worker
  | submit _ _ | start | stop | stopped _ | retryDue _ | others _ => none

namespace Registry

/-- What may happen to leases: tokens are minted once, so a lease that enters the table has a
fresh token. -/
structure Evolves (registry after : Registry) : Prop where
  /-- Minted tokens stay minted. -/
  issued : ∀ token ∈ registry.issued, token ∈ after.issued
  /-- A new entry has a new token. -/
  fresh : ∀ deviceId lease, after.leases deviceId = some lease →
    registry.leases deviceId = some lease ∨ lease.token ∉ registry.issued

/-- A lease that is no longer in the table, and whose token is spent. -/
def Gone (registry : Registry) (lease : Lease) : Prop :=
  registry.leases lease.deviceId ≠ some lease ∧ lease.token ∈ registry.issued

variable {registry after : Registry} {lease : Lease}

/-- A lease that is gone stays gone. -/
theorem Gone.evolve (gone : registry.Gone lease) (evolves : registry.Evolves after) :
    after.Gone lease := by
  refine ⟨fun back => ?_, evolves.issued _ gone.2⟩
  rcases evolves.fresh _ _ back with kept | minted
  · exact gone.1 kept
  · exact minted gone.2

/-- Nothing changes. -/
theorem Evolves.refl : registry.Evolves registry :=
  ⟨fun _ member => member, fun _ _ entry => .inl entry⟩

/-- One change after another. -/
theorem Evolves.trans {later : Registry} (first : registry.Evolves after)
    (second : after.Evolves later) : registry.Evolves later := by
  refine ⟨fun token member => second.issued token (first.issued token member),
    fun deviceId entry found => ?_⟩
  rcases second.fresh deviceId entry found with kept | minted
  · exact first.fresh deviceId entry kept
  · exact .inr fun member => minted (first.issued _ member)

/-- A grant with a fresh token. -/
theorem Evolves.grant (fresh : lease.token ∉ registry.issued) :
    registry.Evolves (registry.grant lease) := by
  refine ⟨fun token member => List.mem_cons_of_mem _ member, fun deviceId entry found => ?_⟩
  by_cases same : deviceId = lease.deviceId
  · subst same
    obtain rfl : lease = entry := by simpa [Registry.grant] using found
    exact .inr fresh
  · exact .inl (by simpa [Registry.grant, same] using found)

/-- What a release leaves in the table was there before. -/
theorem leases_of_unlease {deviceId : DeviceId} {entry : Lease}
    (found : (registry.unlease lease).leases deviceId = some entry) :
    registry.leases deviceId = some entry := by
  unfold unlease at found
  split at found
  · exact found
  · split at found
    · by_cases same : deviceId = lease.deviceId
      · simp [same] at found
      · simpa [same] using found
    · exact found

/-- A released lease is not in the table. -/
theorem unlease_removes : (registry.unlease lease).leases lease.deviceId ≠ some lease := by
  unfold unlease
  split
  · rename_i empty
    simp [empty]
  · rename_i current held
    split
    · simp
    · rename_i other
      rw [held]
      rintro same
      exact other (congrArg Lease.token (Option.some.inj same))

/-- Releasing mints no token. -/
@[simp]
theorem issued_unlease : (registry.unlease lease).issued = registry.issued := by
  unfold unlease
  split
  · rfl
  · split <;> rfl

/-- A release. -/
theorem Evolves.unlease : registry.Evolves (registry.unlease lease) :=
  ⟨fun token member => by simpa using member, fun _ _ found => .inl (leases_of_unlease found)⟩

end Registry

namespace SchedulerWorld

/-- The other parties mint tokens once. -/
def Fair (world : SchedulerWorld) : SchedulerAction → Prop
  | .others registry => world.registry.Evolves registry
  | _ => True

/-- The steps of a call at which it raises while its record still needs it: the RUNNING or the
PENDING announcement raises, the health monitor raises, the selector cannot be evaluated, or the
backoff overflows. -/
def Strands (config : SchedulerConfig) (registry : Registry) (record : TaskRecord) :
    Point → SchedulerAction → Prop
  | .starting _ _, .sinkRaised _ => True
  | .requeueing _ _, .sinkRaised _ => True
  | .quarantining _ _, .quarantineRaised _ => True
  | .quarantining _ _, .quarantined _ _ => record.Overflows
  | .executing lease _, .executed _ outcome _ =>
    outcome.fails = true ∧ record.Overflows ∧
      ¬(outcome.blamesDevice ∧ config.health ∧ registry.stateOf lease.deviceId = some .online)
  | .acquiring, .leaseTimeout _ _ => record.state.terminal = false ∧ record.Overflows
  | .acquiring, .leaseError _ => record.state.terminal = false
  | _, _ => False

/-- The call of a worker is left stranded by a step. -/
def Taken.strands (config : SchedulerConfig) (worker : Nat) (taken : Taken) : Prop :=
  taken.action.worker? = some worker ∧ ∃ index point record,
    taken.before.at? worker = some (index, point, record) ∧
      Strands config taken.before.registry record point taken.action

/-- The worker schedules a retry. -/
def Taken.schedules (worker : Nat) (taken : Taken) : Bool :=
  match taken.action, taken.before.at? worker with
  | .sinkReturned other, some (_, point, _) => other == worker && point.requeues
  | _, _ => false

/-- The lease that a worker acquires. -/
def Taken.acquires (worker : Nat) (taken : Taken) : Option Lease :=
  match taken.action, taken.after.at? worker with
  | .leased other _, some (_, point, _) => if other = worker then point.lease else none
  | _, _ => none

/-- The retries that a worker scheduled. -/
def scheduled (worker : Nat) (past : List Taken) : Nat := past.countP (Taken.schedules worker)

/-- The leases that a worker acquired. -/
def acquired (worker : Nat) (past : List Taken) : List Lease :=
  past.filterMap (Taken.acquires worker)

/-- Whether the call was stranded. -/
def Stranded (config : SchedulerConfig) (worker : Nat) (past : List Taken) : Prop :=
  ∃ taken ∈ past, Taken.strands config worker taken

/-- Until the call has scheduled its retry nobody else changes its record. -/
def Undisturbed (worker index : Nat) : List Taken → Prop
  | [] => True
  | taken :: past => Undisturbed worker index past ∧
      (taken.action.worker? = some worker ∨ scheduled worker past ≠ 0 ∨
        taken.after.scheduler.records[index]? = taken.before.scheduler.records[index]?)

/-- The worker is inside its call before every step. -/
def Inside (worker : Nat) (past : List Taken) : Prop :=
  ∀ taken ∈ past, (taken.before.scheduler.workers[worker]?).any Worker.inCall = true

instance (worker : Nat) (past : List Taken) : Decidable (Inside worker past) :=
  inferInstanceAs (Decidable (∀ taken ∈ past, _))

variable {config : SchedulerConfig} {world after : SchedulerWorld} {action : SchedulerAction}

/-- **Every fair step evolves the registry.** -/
theorem evolves_step (fair : Fair world action) (taken : step config world action = some after) :
    world.registry.Evolves after.registry := by
  cases step_effect taken with
  | leased worker token index record device attempts busy known free fresh length =>
    exact .grant fresh
  | releasedQuietly worker index lease record busy known pending => exact .unlease
  | released worker index lease record busy known settled => exact .unlease
  | others registry => exact fair
  | _ => exact .refl

/-- Unwinding moves the worker. -/
theorem workers_unwind (scheduler : Scheduler) (worker index : Nat) (lease : Option Lease) :
    ∃ state, (scheduler.unwind worker index lease).workers =
      scheduler.workers.set worker state := by
  cases lease with
  | none => exact ⟨.idle, Scheduler.workers_leave _ _⟩
  | some lease => exact ⟨.busy index (.releasing lease), rfl⟩

/-- `_requeue` moves the worker. -/
theorem workers_requeue {scheduler after : Scheduler} {worker index : Nat} {record : TaskRecord}
    {lease : Option Lease} (went : Scheduler.Requeue scheduler worker index record lease after) :
    ∃ state, after.workers = scheduler.workers.set worker state := by
  cases went with
  | exhausted error spent => exact ⟨.busy index (.failing lease), rfl⟩
  | delayed delay left small => exact ⟨.busy index (.requeueing lease delay), rfl⟩
  | overflow left large => exact workers_unwind _ _ _ _

/-- **A step moves the worker it resumes**, and no other; `start` adds idle workers. -/
theorem workers_step (taken : step config world action = some after) :
    (∃ worker state, action.worker? = some worker ∧
      after.scheduler.workers = world.scheduler.workers.set worker state) ∨
    (∃ count, after.scheduler.workers =
      world.scheduler.workers ++ List.replicate count .idle) := by
  have still : ∃ count, world.scheduler.workers =
      world.scheduler.workers ++ List.replicate count .idle := ⟨0, by simp⟩
  cases step_effect taken with
  | submit spec correlationId =>
    simp only [withScheduler, Scheduler.submit]
    split <;> exact .inr still
  | start =>
    simp only [withScheduler, Scheduler.start]
    split
    · exact .inr still
    · exact .inr ⟨_, rfl⟩
  | stop =>
    simp only [withScheduler, Scheduler.stop]
    split <;> exact .inr still
  | stopped call stopping => exact .inr still
  | pill worker rest idle head => exact .inl ⟨worker, .exited, rfl, rfl⟩
  | take worker taskId rest idle head =>
    have went := Scheduler.takeTask_cases world.registry worker taskId rest world.scheduler
    simp only [withScheduler]
    generalize world.scheduler.takeTask world.registry worker taskId rest = after at went ⊢
    cases went with
    | skipped skips => exact .inl ⟨worker, .idle, rfl, Scheduler.workers_leave _ _⟩
    | raised index record error named known unskipped raised =>
      exact .inl ⟨worker, .idle, rfl, Scheduler.workers_leave _ _⟩
    | abandoned index record error named known unskipped => exact .inl ⟨worker, _, rfl, rfl⟩
    | acquiring index record named known unskipped => exact .inl ⟨worker, _, rfl, rfl⟩
  | leased worker token index record device attempts busy known free fresh length =>
    exact .inl ⟨worker, _, rfl, rfl⟩
  | leaseTimeout worker draw index record after busy known went =>
    obtain ⟨state, moved⟩ := workers_requeue went
    exact .inl ⟨worker, state, rfl, moved⟩
  | leaseError worker index record error busy known raised =>
    exact .inl ⟨worker, .idle, rfl, Scheduler.workers_leave _ _⟩
  | sinkReturned worker index point record after busy known went =>
    left
    cases point <;> cases went
    · exact ⟨worker, .idle, rfl, Scheduler.workers_leave _ _⟩
    · exact ⟨worker, _, rfl, rfl⟩
    · exact ⟨worker, _, rfl, (workers_unwind _ _ _ _).choose_spec⟩
    · exact ⟨worker, _, rfl, (workers_unwind _ _ _ _).choose_spec⟩
    · exact ⟨worker, .idle, rfl, Scheduler.workers_leave _ _⟩
  | sinkRaised worker index point record after busy known went =>
    obtain ⟨lease, rfl⟩ := Scheduler.sinkRaised_unwind went
    obtain ⟨state, moved⟩ := workers_unwind world.scheduler worker index lease
    exact .inl ⟨worker, state, rfl, moved⟩
  | executed worker outcome draw index lease attempt record ended after busy known same went =>
    left
    cases went with
    | succeeded value => exact ⟨worker, _, rfl, rfl⟩
    | rejected message => exact ⟨worker, _, rfl, rfl⟩
    | blamed outcome reason wired blames online => exact ⟨worker, _, rfl, rfl⟩
    | requeued outcome after fails excused went =>
      obtain ⟨state, moved⟩ := workers_requeue went
      exact ⟨worker, state, rfl, moved⟩
  | quarantined worker draw index lease reason record after busy known went =>
    obtain ⟨state, moved⟩ := workers_requeue went
    exact .inl ⟨worker, state, rfl, moved⟩
  | quarantineRaised worker index lease reason record busy known =>
    exact .inl ⟨worker, _, rfl, rfl⟩
  | releasedQuietly worker index lease record busy known pending =>
    exact .inl ⟨worker, .idle, rfl, Scheduler.workers_leave _ _⟩
  | released worker index lease record busy known settled => exact .inl ⟨worker, _, rfl, rfl⟩
  | retryDue position retry found =>
    exact .inr ⟨0, by simp [withScheduler]⟩
  | others registry => exact .inr still

/-- A worker that a step does not resume stays where it is. -/
theorem worker_step {worker : Nat} {state : Worker}
    (found : world.scheduler.workers[worker]? = some state)
    (other : action.worker? ≠ some worker) (taken : step config world action = some after) :
    after.scheduler.workers[worker]? = some state := by
  rcases workers_step taken with ⟨resumed, moved, names, workers⟩ | ⟨count, workers⟩
  · have apart : resumed ≠ worker := by
      rintro rfl
      exact other names
    rw [workers, List.getElem?_set_ne apart]
    exact found
  · obtain ⟨bound, -⟩ := List.getElem?_eq_some_iff.mp found
    rw [workers, List.getElem?_append_left bound]
    exact found

/-- The worker no longer answers for the record: it is on its way out of the call, or out. -/
def Leaving (index : Nat) : Worker → Prop
  | .busy held point => held = index ∧ point.active = false
  | .idle => True
  | .exited => False

/-- Where a call stands. -/
inductive Call (config : SchedulerConfig) (worker index : Nat) (past : List Taken)
    (world : SchedulerWorld) : Prop
  /-- The worker answers for the record, and nothing has gone wrong. -/
  | answering (point : Point) (record : TaskRecord) :
      world.scheduler.workers[worker]? = some (.busy index point) →
      world.scheduler.records[index]? = some record → point.active = true →
      ¬Stranded config worker past → scheduled worker past = 0 →
      (point ≠ .acquiring → record.state.terminal = false) →
      (∀ lease ∈ acquired worker past,
        point.lease = some lease ∧ lease.token ∈ world.registry.issued) →
      Call config worker index past world
  /-- The record has ended or its retry is scheduled. -/
  | settled (state : Worker) (record : TaskRecord) :
      world.scheduler.workers[worker]? = some state → Leaving index state →
      world.scheduler.records[index]? = some record → ¬Stranded config worker past →
      (record.state.terminal = true ∧ scheduled worker past = 0 ∨ scheduled worker past = 1) →
      (∀ lease ∈ acquired worker past,
        (state.lease = some lease ∧ lease.token ∈ world.registry.issued) ∨
          world.registry.Gone lease) →
      Call config worker index past world
  /-- The call was stranded. -/
  | stranded (state : Worker) (record : TaskRecord) :
      world.scheduler.workers[worker]? = some state → Leaving index state →
      world.scheduler.records[index]? = some record → Stranded config worker past →
      record.state.terminal = false → scheduled worker past = 0 →
      Call config worker index past world

variable {worker index : Nat} {past : List Taken} {point : Point} {record : TaskRecord}

/-- A step of the worker strands it exactly if it is one of the stranding steps. -/
theorem strands_iff (busy : world.scheduler.workers[worker]? = some (.busy index point))
    (known : world.scheduler.records[index]? = some record)
    (own : action.worker? = some worker) :
    Taken.strands config worker ⟨world, action, after⟩ ↔
      Strands config world.registry record point action := by
  have found := at?_eq_some.mpr ⟨busy, known⟩
  constructor
  · rintro ⟨-, index', point', record', found', strands⟩
    rw [found] at found'
    cases found'
    exact strands
  · intro strands
    exact ⟨own, index, point, record, found, strands⟩

/-- The call is stranded after a step if it was before or the step strands it. -/
theorem stranded_cons (taken : Taken) : Stranded config worker (taken :: past) ↔
    Taken.strands config worker taken ∨ Stranded config worker past := by
  simp [Stranded]

/-- **What resumes a busy worker**, by the await it is at. -/
inductive Resumed (config : SchedulerConfig) (world : SchedulerWorld) (worker index : Nat)
    (record : TaskRecord) : Point → SchedulerAction → SchedulerWorld → Prop
  /-- A lease. -/
  | leased (token : Nat) (device : Device) (attempts : List Attempt) :
      Resumed config world worker index record .acquiring (.leased worker token)
        { registry := world.registry.grant ⟨device.id, token⟩
          scheduler := world.scheduler.advance worker index
            { record with attempts := attempts, state := .running }
            (.starting ⟨device.id, token⟩ record.attemptCount)
            [{ record with attempts := attempts, state := .running }.event] }
  /-- No lease in time. -/
  | leaseTimeout (draw : Rat) (after : Scheduler) :
      Scheduler.Requeue world.scheduler worker index record none after →
      Resumed config world worker index record .acquiring (.leaseTimeout worker draw)
        (world.withScheduler after)
  /-- A selector that cannot be evaluated. -/
  | leaseError : Resumed config world worker index record .acquiring (.leaseError worker)
      (world.withScheduler (world.scheduler.leave worker))
  /-- A sink that returns. -/
  | sinkReturned (point : Point) (after : Scheduler) :
      world.scheduler.sinkReturned worker index record point = some after →
      Resumed config world worker index record point (.sinkReturned worker)
        (world.withScheduler after)
  /-- A sink that raises. -/
  | sinkRaised (point : Point) (after : Scheduler) :
      world.scheduler.sinkRaised worker index point = some after →
      Resumed config world worker index record point (.sinkRaised worker)
        (world.withScheduler after)
  /-- A target that ends. -/
  | executed (outcome : Outcome) (draw : Rat) (lease : Lease) (attempt : Nat)
      (ended : TaskRecord) (after : Scheduler) :
      ended = record.endAttempt attempt (Scheduler.attemptError config record outcome) →
      Scheduler.Ended config world.registry world.scheduler worker index ended lease outcome
        after →
      Resumed config world worker index record (.executing lease attempt)
        (.executed worker outcome draw) (world.withScheduler after)
  /-- A quarantine that returns. -/
  | quarantined (draw : Rat) (lease : Lease) (reason : String) (after : Scheduler) :
      Scheduler.Requeue world.scheduler worker index record (some lease) after →
      Resumed config world worker index record (.quarantining lease reason)
        (.quarantined worker draw) (world.withScheduler after)
  /-- A quarantine that raises. -/
  | quarantineRaised (lease : Lease) (reason : String) :
      Resumed config world worker index record (.quarantining lease reason)
        (.quarantineRaised worker)
        (world.withScheduler (world.scheduler.advance worker index record (.releasing lease) []))
  /-- A release after which nothing is announced. -/
  | releasedQuietly (lease : Lease) :
      Resumed config world worker index record (.releasing lease) (.released worker)
        { registry := world.registry.unlease lease, scheduler := world.scheduler.leave worker }
  /-- A release after which the record is announced. -/
  | released (lease : Lease) :
      Resumed config world worker index record (.releasing lease) (.released worker)
        { registry := world.registry.unlease lease
          scheduler := world.scheduler.advance worker index record .announcing [record.event] }

/-- A step of a busy worker resumes it at its await. -/
theorem resumed_step (own : action.worker? = some worker)
    (busy : world.scheduler.workers[worker]? = some (.busy index point))
    (known : world.scheduler.records[index]? = some record)
    (taken : step config world action = some after) :
    Resumed config world worker index record point action after := by
  have here : ∀ {index' : Nat} {point' : Point} {record' : TaskRecord},
      world.scheduler.workers[worker]? = some (.busy index' point') →
      world.scheduler.records[index']? = some record' →
      index = index' ∧ point = point' ∧ record = record' := by
    intro index' point' record' busy' known'
    have same := (at?_eq_some.mpr ⟨busy, known⟩).symm.trans (at?_eq_some.mpr ⟨busy', known'⟩)
    simpa using same
  cases step_effect taken with
  | submit spec correlationId => cases own
  | start => cases own
  | stop => cases own
  | stopped call stopping => cases own
  | retryDue position retry due => cases own
  | others registry => cases own
  | pill resumed rest idle head =>
    cases own
    cases busy.symm.trans idle
  | take resumed taskId rest idle head =>
    cases own
    cases busy.symm.trans idle
  | leased resumed token index' record' device attempts busy' known' free fresh length =>
    cases own
    obtain ⟨rfl, rfl, rfl⟩ := here busy' known'
    exact .leased token device attempts
  | leaseTimeout resumed draw index' record' scheduler busy' known' went =>
    cases own
    obtain ⟨rfl, rfl, rfl⟩ := here busy' known'
    exact .leaseTimeout draw scheduler went
  | leaseError resumed index' record' error busy' known' raised =>
    cases own
    obtain ⟨rfl, rfl, rfl⟩ := here busy' known'
    exact .leaseError
  | sinkReturned resumed index' point' record' scheduler busy' known' went =>
    cases own
    obtain ⟨rfl, rfl, rfl⟩ := here busy' known'
    exact .sinkReturned point scheduler went
  | sinkRaised resumed index' point' record' scheduler busy' known' went =>
    cases own
    obtain ⟨rfl, rfl, rfl⟩ := here busy' known'
    exact .sinkRaised point scheduler went
  | executed resumed outcome draw index' lease attempt record' ended scheduler busy' known' same
      went =>
    cases own
    obtain ⟨rfl, rfl, rfl⟩ := here busy' known'
    exact .executed outcome draw lease attempt ended scheduler same went
  | quarantined resumed draw index' lease reason record' scheduler busy' known' went =>
    cases own
    obtain ⟨rfl, rfl, rfl⟩ := here busy' known'
    exact .quarantined draw lease reason scheduler went
  | quarantineRaised resumed index' lease reason record' busy' known' =>
    cases own
    obtain ⟨rfl, rfl, rfl⟩ := here busy' known'
    exact .quarantineRaised lease reason
  | releasedQuietly resumed index' lease record' busy' known' pending =>
    cases own
    obtain ⟨rfl, rfl, rfl⟩ := here busy' known'
    exact .releasedQuietly lease
  | released resumed index' lease record' busy' known' settled =>
    cases own
    obtain ⟨rfl, rfl, rfl⟩ := here busy' known'
    exact .released lease

/-- A worker at an await answers for its record: nothing has gone wrong, and it has the lease it
acquired. -/
structure Answers (config : SchedulerConfig) (worker index : Nat) (past : List Taken)
    (world : SchedulerWorld) (point : Point) (record : TaskRecord) : Prop where
  /-- Where the worker is. -/
  busy : world.scheduler.workers[worker]? = some (.busy index point)
  /-- What it works on. -/
  known : world.scheduler.records[index]? = some record
  /-- No step stranded the call. -/
  unstranded : ¬Stranded config worker past
  /-- No retry is scheduled. -/
  unscheduled : scheduled worker past = 0
  /-- What it acquired it has. -/
  held : ∀ lease ∈ acquired worker past,
    point.lease = some lease ∧ lease.token ∈ world.registry.issued

namespace Answers

/-- The worker exists. -/
theorem inside (answers : Answers config worker index past world point record) :
    worker < world.scheduler.workers.length :=
  (List.getElem?_eq_some_iff.mp answers.busy).1

/-- So does the record. -/
theorem bound (answers : Answers config worker index past world point record) :
    index < world.scheduler.records.length :=
  (List.getElem?_eq_some_iff.mp answers.known).1

/-- A step that does not strand the call. -/
theorem unstranded_cons (answers : Answers config worker index past world point record)
    (own : action.worker? = some worker)
    (fine : ¬Strands config world.registry record point action) :
    ¬Stranded config worker (⟨world, action, after⟩ :: past) := by
  rw [stranded_cons, strands_iff answers.busy answers.known own]
  exact not_or.mpr ⟨fine, answers.unstranded⟩

end Answers

/-- A step of the worker that neither acquires nor schedules leaves it answering, settles the
call or strands it. -/
theorem call_plain (own : action.worker? = some worker)
    (answers : Answers config worker index past world point record)
    (schedules : Taken.schedules worker ⟨world, action, after⟩ = false)
    (acquires : Taken.acquires worker ⟨world, action, after⟩ = none)
    (issued : after.registry = world.registry) {state : Worker} {new : TaskRecord}
    (moved : after.scheduler.workers[worker]? = some state)
    (rewritten : after.scheduler.records[index]? = some new)
    (lease : state.lease = point.lease)
    (fate : (∃ next, state = .busy index next ∧ next.active = true ∧
        new.state.terminal = false ∧ ¬Strands config world.registry record point action) ∨
      (Leaving index state ∧ new.state.terminal = true ∧
        ¬Strands config world.registry record point action) ∨
      (Leaving index state ∧ new.state.terminal = false ∧
        Strands config world.registry record point action)) :
    Call config worker index (⟨world, action, after⟩ :: past) after := by
  have count : scheduled worker (⟨world, action, after⟩ :: past) = 0 := by
    simpa [scheduled, List.countP_cons, schedules] using answers.unscheduled
  have held : ∀ entry ∈ acquired worker (⟨world, action, after⟩ :: past),
      state.lease = some entry ∧ entry.token ∈ after.registry.issued := by
    intro entry member
    have member : entry ∈ acquired worker past := by simpa [acquired, acquires] using member
    have before := answers.held entry member
    exact ⟨lease.trans before.1, issued ▸ before.2⟩
  rcases fate with ⟨next, rfl, active, unended, fine⟩ | ⟨leaving, ended, fine⟩ |
    ⟨leaving, unended, strands⟩
  · exact .answering next new moved rewritten active (answers.unstranded_cons own fine) count
      (fun _ => unended) held
  · exact .settled state new moved leaving rewritten (answers.unstranded_cons own fine)
      (.inl ⟨ended, count⟩) fun entry member => .inl (held entry member)
  · refine .stranded state new moved leaving rewritten ?_ unended count
    rw [stranded_cons, strands_iff answers.busy answers.known own]
    exact .inl strands

/-- A worker that acquires a lease answers for its record with that lease. -/
theorem call_leased {token attempt : Nat} {lease : Lease} {new : TaskRecord}
    (answers : Answers config worker index past world .acquiring record)
    (moved : after.scheduler.workers[worker]? = some (.busy index (.starting lease attempt)))
    (rewritten : after.scheduler.records[index]? = some new)
    (unended : new.state.terminal = false) (minted : lease.token ∈ after.registry.issued) :
    Call config worker index (⟨world, .leased worker token, after⟩ :: past) after := by
  have none : acquired worker past = [] := List.eq_nil_iff_forall_not_mem.mpr
    fun lease member => by cases (answers.held lease member).1
  have acquires : acquired worker (⟨world, .leased worker token, after⟩ :: past) = [lease] := by
    have here := at?_eq_some.mpr ⟨moved, rewritten⟩
    rw [← none, acquired, List.filterMap_cons]
    simp [Taken.acquires, here, Point.lease, acquired]
  refine .answering (.starting lease attempt) new moved rewritten rfl
    (answers.unstranded_cons rfl id) answers.unscheduled (fun _ => unended) ?_
  intro entry member
  rw [acquires] at member
  obtain rfl := List.mem_singleton.mp member
  exact ⟨rfl, minted⟩

/-- Unwinding puts the worker on its way out, with its lease. -/
theorem unwind_leaves {scheduler : Scheduler} (index : Nat) (lease : Option Lease)
    (inside : worker < scheduler.workers.length) :
    ∃ state, (scheduler.unwind worker index lease).workers[worker]? = some state ∧
      Leaving index state ∧ state.lease = lease := by
  cases lease with
  | none => exact ⟨.idle, by simp [Scheduler.unwind, inside], trivial, rfl⟩
  | some lease =>
    exact ⟨.busy index (.releasing lease), by simp [Scheduler.unwind, Scheduler.place, inside],
      ⟨rfl, rfl⟩, rfl⟩

/-- Where `_requeue` leaves the worker and the record. -/
theorem requeue_fate {scheduler after : Scheduler} {lease : Option Lease}
    (known : scheduler.records[index]? = some record)
    (inside : worker < scheduler.workers.length)
    (went : Scheduler.Requeue scheduler worker index record lease after) :
    ∃ state new, after.workers[worker]? = some state ∧ after.records[index]? = some new ∧
      state.lease = lease ∧
      ((∃ next, state = .busy index next ∧ next.active = true ∧ new.state.terminal = false ∧
          ¬record.Overflows) ∨
        (Leaving index state ∧ new.state.terminal = true ∧ ¬record.Overflows) ∨
        (Leaving index state ∧ new = record ∧ record.Overflows)) := by
  obtain ⟨bound, -⟩ := List.getElem?_eq_some_iff.mp known
  cases went with
  | exhausted error spent =>
    have fine : ¬record.Overflows := by
      rintro ⟨left, -⟩
      omega
    exact ⟨_, _, Scheduler.advance_worker inside, Scheduler.advance_record bound, rfl,
      .inr (.inl ⟨⟨rfl, rfl⟩, rfl, fine⟩)⟩
  | delayed delay left small =>
    have fine : ¬record.Overflows := by
      rintro ⟨-, large⟩
      omega
    exact ⟨_, _, Scheduler.advance_worker inside, Scheduler.advance_record bound, rfl,
      .inl ⟨_, rfl, rfl, rfl, fine⟩⟩
  | overflow left large =>
    obtain ⟨state, moved, leaving, held⟩ := unwind_leaves index lease inside
    exact ⟨state, record, moved, by simpa using known, held,
      .inr (.inr ⟨leaving, rfl, left, large⟩)⟩

/-- A worker that requeues its record keeps answering, settles the call, or strands it by an
overflow. -/
theorem call_requeued {scheduler : Scheduler} (middle : Scheduler) {requeued : TaskRecord}
    (own : action.worker? = some worker)
    (answers : Answers config worker index past world point record)
    (schedules : Taken.schedules worker ⟨world, action, world.withScheduler scheduler⟩ = false)
    (acquires : Taken.acquires worker ⟨world, action, world.withScheduler scheduler⟩ = none)
    (known : middle.records[index]? = some requeued)
    (workers : middle.workers = world.scheduler.workers)
    (went : Scheduler.Requeue middle worker index requeued point.lease scheduler)
    (strands : Strands config world.registry record point action ↔
      requeued.state.terminal = false ∧ requeued.Overflows) :
    Call config worker index (⟨world, action, world.withScheduler scheduler⟩ :: past)
      (world.withScheduler scheduler) := by
  obtain ⟨state, new, moved, rewritten, lease, fate⟩ :=
    requeue_fate known (workers ▸ answers.inside) went
  refine call_plain own answers schedules acquires rfl moved rewritten lease ?_
  rw [strands]
  rcases fate with ⟨next, rfl, active, live, fine⟩ | ⟨leaving, ended, fine⟩ |
    ⟨leaving, rfl, overflows⟩
  · exact .inl ⟨next, rfl, active, live, fun both => fine both.2⟩
  · exact .inr (.inl ⟨leaving, ended, fun both => fine both.2⟩)
  · by_cases live : new.state.terminal = false
    · exact .inr (.inr ⟨leaving, live, live, overflows⟩)
    · exact .inr (.inl ⟨leaving, by simpa using live, fun both => live both.1⟩)

/-- A worker whose announcement returned runs the target, or has scheduled its retry. -/
theorem call_announced {scheduler : Scheduler}
    (answers : Answers config worker index past world point record)
    (active : point.active = true) (unended : point ≠ .acquiring → record.state.terminal = false)
    (went : world.scheduler.sinkReturned worker index record point = some scheduler) :
    Call config worker index
      (⟨world, .sinkReturned worker, world.withScheduler scheduler⟩ :: past)
      (world.withScheduler scheduler) := by
  have found := at?_eq_some.mpr ⟨answers.busy, answers.known⟩
  have schedules : Taken.schedules worker
      ⟨world, .sinkReturned worker, world.withScheduler scheduler⟩ = point.requeues := by
    simp [Taken.schedules, found]
  have count : point.requeues = true → scheduled worker
      (⟨world, .sinkReturned worker, world.withScheduler scheduler⟩ :: past) = 1 := by
    intro requeues
    have none : past.countP (Taken.schedules worker) = 0 := answers.unscheduled
    simp [scheduled, schedules, requeues, none]
  cases point with
  | starting lease attempt =>
    cases went
    have moved : (world.scheduler.place worker
        (.busy index (.executing lease attempt))).workers[worker]? =
          some (.busy index (.executing lease attempt)) := by
      simp [Scheduler.place, answers.inside]
    exact call_plain rfl answers schedules rfl rfl moved answers.known rfl
      (.inl ⟨_, rfl, rfl, unended (by simp), id⟩)
  | requeueing lease delay =>
    cases went
    have counted : worker < ({ world.scheduler with
        pendingRetries := world.scheduler.pendingRetries + 1
        idle := false
        retries := world.scheduler.retries ++ [Retry.mk record.spec.id delay] } :
          Scheduler).workers.length := answers.inside
    obtain ⟨state, moved, leaving, held⟩ := unwind_leaves index lease counted
    exact .settled state record moved leaving (by simpa [withScheduler] using answers.known)
      (answers.unstranded_cons rfl id) (.inr (count rfl)) fun entry member =>
        .inl ⟨held.trans (answers.held entry member).1, (answers.held entry member).2⟩
  | abandoning => cases active
  | failing lease => cases active
  | announcing => cases active
  | releasing lease => cases active
  | acquiring => cases went
  | executing lease attempt => cases went
  | quarantining lease reason => cases went

/-- An active worker whose announcement raised is stranded. -/
theorem call_interrupted {scheduler : Scheduler}
    (answers : Answers config worker index past world point record)
    (active : point.active = true) (unended : point ≠ .acquiring → record.state.terminal = false)
    (went : world.scheduler.sinkRaised worker index point = some scheduler) :
    Call config worker index
      (⟨world, .sinkRaised worker, world.withScheduler scheduler⟩ :: past)
      (world.withScheduler scheduler) := by
  have stranded : Strands config world.registry record point (.sinkRaised worker) →
      Stranded config worker (⟨world, .sinkRaised worker, world.withScheduler scheduler⟩ ::
        past) := by
    intro strands
    rw [stranded_cons, strands_iff answers.busy answers.known rfl]
    exact .inl strands
  cases point with
  | starting lease attempt =>
    cases went
    exact .stranded .idle record (by simp [withScheduler, answers.inside]) trivial
      (by simpa [withScheduler] using answers.known) (stranded trivial) (unended (by simp))
      answers.unscheduled
  | requeueing lease delay =>
    cases went
    obtain ⟨state, moved, leaving, -⟩ := unwind_leaves index lease answers.inside
    exact .stranded state record moved leaving (by simpa [withScheduler] using answers.known)
      (stranded trivial) (unended (by simp)) answers.unscheduled
  | abandoning => cases active
  | failing lease => cases active
  | announcing => cases active
  | releasing lease => cases active
  | acquiring => cases went
  | executing lease attempt => cases went
  | quarantining lease reason => cases went

/-- A worker whose target ended has settled the call, asks the monitor or requeues. -/
theorem call_executed {outcome : Outcome} {draw : Rat} {lease : Lease} {attempt : Nat}
    {ended : TaskRecord} {scheduler : Scheduler}
    (answers : Answers config worker index past world (.executing lease attempt) record)
    (live : record.state.terminal = false)
    (same : ended = record.endAttempt attempt (Scheduler.attemptError config record outcome))
    (went : Scheduler.Ended config world.registry world.scheduler worker index ended lease outcome
      scheduler) :
    Call config worker index
      (⟨world, .executed worker outcome draw, world.withScheduler scheduler⟩ :: past)
      (world.withScheduler scheduler) := by
  have still : ended.state.terminal = false := by
    rw [same]
    exact live
  cases went with
  | succeeded value =>
    exact call_plain rfl answers rfl rfl rfl (Scheduler.advance_worker answers.inside)
      (Scheduler.advance_record answers.bound) rfl
      (.inr (.inl ⟨⟨rfl, rfl⟩, rfl, fun strands => by cases strands.1⟩))
  | rejected message =>
    exact call_plain rfl answers rfl rfl rfl (Scheduler.advance_worker answers.inside)
      (Scheduler.advance_record answers.bound) rfl
      (.inr (.inl ⟨⟨rfl, rfl⟩, rfl, fun strands => by cases strands.1⟩))
  | blamed outcome reason wired blames online =>
    exact call_plain rfl answers rfl rfl rfl (Scheduler.advance_worker answers.inside)
      (Scheduler.advance_record answers.bound) rfl
      (.inl ⟨.quarantining lease reason, rfl, rfl, still,
        fun strands => strands.2.2 ⟨blames, wired, online⟩⟩)
  | requeued outcome after fails excused went =>
    have overflows : ended.Overflows ↔ record.Overflows := by
      rw [same]
      simp only [TaskRecord.Overflows, TaskRecord.endAttempt_attemptCount]
      rfl
    refine call_requeued { world.scheduler with
      records := world.scheduler.records.set index ended } rfl answers rfl rfl
        (by simp [answers.bound]) rfl went ?_
    rw [overflows]
    exact ⟨fun strands => ⟨still, strands.2.1⟩, fun both => ⟨fails, both.2, excused⟩⟩

/-- **A step of a worker that answers for its record** keeps it answering, settles the call or
strands it. -/
theorem call_answering (own : action.worker? = some worker)
    (taken : step config world action = some after)
    (answers : Answers config worker index past world point record)
    (active : point.active = true)
    (unended : point ≠ .acquiring → record.state.terminal = false) :
    Call config worker index (⟨world, action, after⟩ :: past) after := by
  cases resumed_step own answers.busy answers.known taken with
  | leased token device attempts =>
    exact call_leased answers (Scheduler.advance_worker answers.inside)
      (Scheduler.advance_record answers.bound) rfl List.mem_cons_self
  | leaseTimeout draw scheduler went =>
    exact call_requeued world.scheduler rfl answers rfl rfl answers.known rfl went Iff.rfl
  | leaseError =>
    have moved : (world.scheduler.leave worker).workers[worker]? = some .idle := by
      simp [answers.inside]
    have kept : (world.scheduler.leave worker).records[index]? = some record := by
      simpa using answers.known
    refine call_plain rfl answers rfl rfl rfl moved kept rfl ?_
    by_cases live : record.state.terminal = false
    · exact .inr (.inr ⟨trivial, live, live⟩)
    · exact .inr (.inl ⟨trivial, by simpa using live, live⟩)
  | sinkReturned _ scheduler went => exact call_announced answers active unended went
  | sinkRaised _ scheduler went => exact call_interrupted answers active unended went
  | executed outcome draw lease attempt ended scheduler same went =>
    exact call_executed answers (unended nofun) same went
  | quarantined draw lease reason scheduler went =>
    exact call_requeued world.scheduler rfl answers rfl rfl answers.known rfl went
      ⟨fun overflows => ⟨unended nofun, overflows⟩, And.right⟩
  | quarantineRaised lease reason =>
    exact call_plain rfl answers rfl rfl rfl (Scheduler.advance_worker answers.inside)
      (Scheduler.advance_record answers.bound) rfl
      (.inr (.inr ⟨⟨rfl, rfl⟩, unended nofun, trivial⟩))
  | releasedQuietly lease => cases active
  | released lease => cases active

/-- Where a step takes a worker that is on its way out: the record stays, and so does the lease
until it is released. -/
structure Left (config : SchedulerConfig) (worker index : Nat) (world : SchedulerWorld)
    (action : SchedulerAction) (after : SchedulerWorld) (point : Point) (record : TaskRecord)
    (state : Worker) : Prop where
  /-- Where the worker is. -/
  moved : after.scheduler.workers[worker]? = some state
  /-- It is still on its way out, or out. -/
  leaving : Leaving index state
  /-- The record stays. -/
  known : after.scheduler.records[index]? = some record
  /-- No retry is scheduled. -/
  schedules : Taken.schedules worker ⟨world, action, after⟩ = false
  /-- No lease is acquired. -/
  acquires : Taken.acquires worker ⟨world, action, after⟩ = none
  /-- Nothing is stranded. -/
  fine : ¬Strands config world.registry record point action
  /-- The lease is kept or gone. -/
  released : ∀ lease, point.lease = some lease → lease.token ∈ world.registry.issued →
    (state.lease = some lease ∧ lease.token ∈ after.registry.issued) ∨ after.registry.Gone lease

/-- A worker that unwinds keeps its lease until it is released. -/
theorem left_unwinding (point : Point) (known : world.scheduler.records[index]? = some record)
    (inside : worker < world.scheduler.workers.length)
    (schedules : Taken.schedules worker ⟨world, action,
      world.withScheduler (world.scheduler.unwind worker index point.lease)⟩ = false)
    (acquires : Taken.acquires worker ⟨world, action,
      world.withScheduler (world.scheduler.unwind worker index point.lease)⟩ = none)
    (fine : ¬Strands config world.registry record point action) :
    ∃ state, Left config worker index world action
      (world.withScheduler (world.scheduler.unwind worker index point.lease)) point record
      state := by
  obtain ⟨state, moved, leaving, held⟩ := unwind_leaves index point.lease inside
  exact ⟨state, moved, leaving, by simpa [withScheduler] using known, schedules, acquires, fine,
    fun lease same minted => .inl ⟨held.trans same, minted⟩⟩

/-- **A step of a worker on its way out** leaves the record alone, and releases the lease or
keeps it. -/
theorem call_leaving (own : action.worker? = some worker)
    (taken : step config world action = some after)
    (busy : world.scheduler.workers[worker]? = some (.busy index point))
    (inactive : point.active = false)
    (known : world.scheduler.records[index]? = some record) :
    ∃ state, Left config worker index world action after point record state := by
  obtain ⟨inside, -⟩ := List.getElem?_eq_some_iff.mp busy
  obtain ⟨bound, -⟩ := List.getElem?_eq_some_iff.mp known
  cases resumed_step own busy known taken with
  | sinkReturned _ scheduler went =>
    have unscheduled : Taken.schedules worker
        ⟨world, .sinkReturned worker, world.withScheduler scheduler⟩ = point.requeues := by
      simp [Taken.schedules, at?_eq_some.mpr ⟨busy, known⟩]
    cases point with
    | abandoning =>
      cases went
      exact left_unwinding .abandoning known inside unscheduled rfl id
    | announcing =>
      cases went
      exact left_unwinding .announcing known inside unscheduled rfl id
    | failing lease =>
      cases went
      exact left_unwinding (.failing lease) known inside unscheduled rfl id
    | starting lease attempt | requeueing lease delay => cases inactive
    | releasing lease | acquiring | executing lease attempt | quarantining lease reason =>
      cases went
  | sinkRaised _ scheduler went =>
    cases point with
    | abandoning =>
      cases went
      exact left_unwinding .abandoning known inside rfl rfl id
    | announcing =>
      cases went
      exact left_unwinding .announcing known inside rfl rfl id
    | failing lease =>
      cases went
      exact left_unwinding (.failing lease) known inside rfl rfl id
    | starting lease attempt | requeueing lease delay => cases inactive
    | releasing lease | acquiring | executing lease attempt | quarantining lease reason =>
      cases went
  | releasedQuietly lease =>
    refine ⟨.idle, by simp [inside], trivial, by simpa using known, rfl, rfl, id, ?_⟩
    intro entry same minted
    obtain rfl := Option.some.inj same
    exact .inr ⟨Registry.unlease_removes, by simpa using minted⟩
  | released lease =>
    refine ⟨.busy index .announcing, Scheduler.advance_worker inside, ⟨rfl, rfl⟩,
      Scheduler.advance_record bound, rfl, rfl, id, ?_⟩
    intro entry same minted
    obtain rfl := Option.some.inj same
    exact .inr ⟨Registry.unlease_removes, by simpa using minted⟩
  | _ => cases inactive

/-- A step of another party changes nothing that the call counts. -/
theorem call_others (config : SchedulerConfig) (past : List Taken)
    (world after : SchedulerWorld) (other : action.worker? ≠ some worker) :
    scheduled worker (⟨world, action, after⟩ :: past) = scheduled worker past ∧
      acquired worker (⟨world, action, after⟩ :: past) = acquired worker past ∧
      (Stranded config worker (⟨world, action, after⟩ :: past) ↔
        Stranded config worker past) := by
  have unscheduled : Taken.schedules worker ⟨world, action, after⟩ = false := by
    unfold Taken.schedules
    split
    · rename_i resumed _ point _ names _
      have apart : resumed ≠ worker := by
        rintro rfl
        have names : action = .sinkReturned resumed := names
        exact other (by rw [names]; rfl)
      simp [apart]
    · rfl
  have unacquired : Taken.acquires worker ⟨world, action, after⟩ = none := by
    unfold Taken.acquires
    split
    · rename_i resumed token _ point _ names _
      have apart : resumed ≠ worker := by
        rintro rfl
        have names : action = .leased resumed token := names
        exact other (by rw [names]; rfl)
      simp [apart]
    · rfl
  refine ⟨by simp [scheduled, unscheduled], by simp [acquired, unacquired], ?_⟩
  rw [stranded_cons]
  exact or_iff_right fun strands => other strands.1

/-- **Every step keeps the call in one of its three stands.** -/
theorem call_step (call : Call config worker index past world) (fair : Fair world action)
    (taken : step config world action = some after)
    (busy : ∃ index point, world.scheduler.workers[worker]? = some (.busy index point))
    (undisturbed : action.worker? = some worker ∨ scheduled worker past ≠ 0 ∨
      after.scheduler.records[index]? = world.scheduler.records[index]?) :
    Call config worker index (⟨world, action, after⟩ :: past) after := by
  have evolves := evolves_step fair taken
  by_cases own : action.worker? = some worker
  · cases call with
    | answering point record here known active unstranded unscheduled unended held =>
      exact call_answering own taken ⟨here, known, unstranded, unscheduled, held⟩ active unended
    | settled state record here leaving known unstranded done held =>
      obtain ⟨held', point, inside⟩ := busy
      rw [here] at inside
      cases inside
      obtain ⟨rfl, inactive⟩ := leaving
      obtain ⟨next, left⟩ := call_leaving own taken here inactive known
      have count : scheduled worker (⟨world, action, after⟩ :: past) = scheduled worker past := by
        simp [scheduled, left.schedules]
      refine .settled next record left.moved left.leaving left.known ?_ (by rwa [count]) ?_
      · rw [stranded_cons, strands_iff here known own]
        exact not_or.mpr ⟨left.fine, unstranded⟩
      · intro lease member
        simp only [acquired, List.filterMap_cons, left.acquires] at member
        rcases held lease member with ⟨holds, minted⟩ | gone
        · exact left.released lease holds minted
        · exact .inr (gone.evolve evolves)
    | stranded state record here leaving known stranded unended unscheduled =>
      obtain ⟨held', point, inside⟩ := busy
      rw [here] at inside
      cases inside
      obtain ⟨rfl, inactive⟩ := leaving
      obtain ⟨next, left⟩ := call_leaving own taken here inactive known
      refine .stranded next record left.moved left.leaving left.known ?_ unended ?_
      · rw [stranded_cons]
        exact .inr stranded
      · simpa [scheduled, left.schedules] using unscheduled
  · obtain ⟨count, leases, strand⟩ := call_others config past world after own
    have undisturbed := undisturbed.resolve_left own
    cases call with
    | answering point record here known active unstranded unscheduled unended held =>
      have kept := undisturbed.resolve_left (not_not.mpr unscheduled)
      refine .answering point record (worker_step here own taken) (kept.trans known) active
        (by rwa [strand]) (by rwa [count]) unended ?_
      intro lease member
      rw [leases] at member
      exact ⟨(held lease member).1, evolves.issued _ (held lease member).2⟩
    | settled state record here leaving known unstranded done held =>
      have leases' : ∀ lease ∈ acquired worker (⟨world, action, after⟩ :: past),
          (state.lease = some lease ∧ lease.token ∈ after.registry.issued) ∨
            after.registry.Gone lease := by
        intro lease member
        rw [leases] at member
        rcases held lease member with ⟨holds, minted⟩ | gone
        · exact .inl ⟨holds, evolves.issued _ minted⟩
        · exact .inr (gone.evolve evolves)
      rcases done with ⟨ended, unscheduled⟩ | scheduled
      · have kept := undisturbed.resolve_left (not_not.mpr unscheduled)
        exact .settled state record (worker_step here own taken) leaving (kept.trans known)
          (by rwa [strand]) (.inl ⟨ended, count.trans unscheduled⟩) leases'
      · obtain ⟨bound, -⟩ := List.getElem?_eq_some_iff.mp known
        have still := List.getElem?_eq_getElem (records_step taken bound)
        exact .settled state _ (worker_step here own taken) leaving still (by rwa [strand])
          (.inr (count.trans scheduled)) leases'
    | stranded state record here leaving known stranded unended unscheduled =>
      have kept := undisturbed.resolve_left (not_not.mpr unscheduled)
      exact .stranded state record (worker_step here own taken) leaving (kept.trans known)
        (by rwa [strand]) unended (by rwa [count])

/-- **A call stays in one of its three stands** while its worker is inside it. -/
theorem call_run {start finish : SchedulerWorld} {past : List Taken}
    (history : Transition.History (step config) Fair start past finish)
    (begun : Call config worker index [] start) (inside : Inside worker past)
    (undisturbed : Undisturbed worker index past) : Call config worker index past finish := by
  induction history with
  | refl => exact begun
  | @next past state after action earlier fair taken ih =>
    have call := ih (fun taken member => inside taken (List.mem_cons_of_mem _ member))
      undisturbed.1
    refine call_step call fair taken ?_ undisturbed.2
    have inCall : (state.scheduler.workers[worker]?).any Worker.inCall = true :=
      inside ⟨state, action, after⟩ List.mem_cons_self
    obtain ⟨held, found, counted⟩ := (Option.any_eq_true _ _).mp inCall
    cases held with
    | busy index point => exact ⟨index, point, found⟩
    | idle => cases counted
    | exited => cases counted

/-- Where `_run_once` begins, unless its selector cannot be evaluated. -/
theorem call_begins (idle : world.scheduler.workers[worker]? = some .idle)
    (known : world.scheduler.records[index]? = some record) {answer : Bool}
    (evaluated : world.registry.couldEverMatch record.spec.selector = .ok answer) :
    Call config worker index []
      (world.withScheduler (world.scheduler.runOnce world.registry worker index record)) := by
  obtain ⟨inside, -⟩ := List.getElem?_eq_some_iff.mp idle
  obtain ⟨bound, -⟩ := List.getElem?_eq_some_iff.mp known
  have fine : ¬Stranded config worker [] := by simp [Stranded]
  cases answer with
  | true =>
    have begins : world.scheduler.runOnce world.registry worker index record =
        world.scheduler.advance worker index record .acquiring [] := by
      simp only [Scheduler.runOnce, evaluated]
      exact Scheduler.place_eq known _
    rw [begins]
    exact .answering .acquiring record (Scheduler.advance_worker inside)
      (Scheduler.advance_record bound) rfl fine rfl (fun impossible => absurd rfl impossible)
      (by simp [acquired])
  | false =>
    have begins : ∃ new events, new.state = .abandoned ∧
        world.scheduler.runOnce world.registry worker index record =
          world.scheduler.advance worker index new .abandoning events := by
      simp only [Scheduler.runOnce, evaluated, Scheduler.finish]
      exact ⟨_, _, rfl, Scheduler.announce_eq known _ _⟩
    obtain ⟨new, events, abandoned, begins⟩ := begins
    rw [begins]
    exact .settled _ new (Scheduler.advance_worker inside) ⟨rfl, rfl⟩
      (Scheduler.advance_record bound) fine (.inl ⟨by rw [abandoned]; rfl, rfl⟩)
      (by simp [acquired])

end SchedulerWorld

open SchedulerWorld

/-- **What a call leaves behind.** When `_run_once` on any record has returned or raised, the
leases it acquired are gone from the table and the record has ended or has exactly one retry
scheduled, if and only if no step of the call stranded it: neither its selector, on a record
that had not ended, nor a step of `Taken.strands`. -/
theorem run_once_settles_iff {config : SchedulerConfig} {world finish : SchedulerWorld}
    {worker index : Nat} {record : TaskRecord} {past : List Taken}
    (idle : world.scheduler.workers[worker]? = some .idle)
    (known : world.scheduler.records[index]? = some record)
    (history : Transition.History (step config) Fair
      (world.withScheduler (world.scheduler.runOnce world.registry worker index record)) past
      finish)
    (inside : Inside worker past) (undisturbed : Undisturbed worker index past)
    (returned : finish.scheduler.workers[worker]? = some .idle) :
    ((∀ lease ∈ acquired worker past, finish.registry.leases lease.deviceId ≠ some lease) ∧
      ∃ final, finish.scheduler.records[index]? = some final ∧
        (final.state.terminal = true ∨ scheduled worker past = 1)) ↔
    ¬(record.state.terminal = false ∧
        ∃ error, world.registry.couldEverMatch record.spec.selector = .error error) ∧
      ∀ taken ∈ past, ¬Taken.strands config worker taken := by
  cases evaluated : world.registry.couldEverMatch record.spec.selector with
  | error error =>
    -- The worker is back at once, so there is no further step of the call.
    obtain ⟨bound, -⟩ := List.getElem?_eq_some_iff.mp idle
    have begins : world.scheduler.runOnce world.registry worker index record =
        world.scheduler.leave worker := by
      simp only [Scheduler.runOnce, evaluated]
    rw [begins] at history
    have none : past = [] := by
      rcases history.first with none | ⟨taken, member, same⟩
      · exact none
      · have busy := inside taken member
        simp [same, withScheduler, bound, Worker.inCall] at busy
    subst none
    cases history
    by_cases ended : record.state.terminal = true <;>
      simp [withScheduler, known, acquired, scheduled, ended]
  | ok answer =>
    have call := call_run history (call_begins idle known evaluated) inside undisturbed
    have evaluates : ¬(record.state.terminal = false ∧
        ∃ error, (Except.ok answer : Except PyError Bool) = .error error) := by
      rintro ⟨-, error, impossible⟩
      cases impossible
    simp only [evaluates, not_false_eq_true, true_and]
    cases call with
    | answering point final busy =>
      rw [returned] at busy
      cases busy
    | settled state final here leaving kept unstranded done held =>
      rw [returned] at here
      cases here
      refine iff_of_true ⟨fun lease member => ?_, final, kept, done.imp_left And.left⟩
        fun taken member strands => unstranded ⟨taken, member, strands⟩
      rcases held lease member with ⟨impossible, -⟩ | gone
      · cases impossible
      · exact gone.1
    | stranded state final here leaving kept stranded unended unscheduled =>
      refine iff_of_false ?_ fun fine => ?_
      · rintro ⟨-, other, kept', done⟩
        rw [kept] at kept'
        cases kept'
        rw [unended, unscheduled] at done
        simp at done
      · obtain ⟨taken, member, strands⟩ := stranded
        exact fine taken member strands

namespace Bench

/-- One task, about to be given to the first worker. -/
def called : SchedulerWorld where
  registry := registry
  scheduler :=
    { records := [{ spec := { kind := "android", id := "demo" }, correlationId := "only" }]
      table := Function.update (fun _ => none) "demo" (some 0)
      workers := [.idle, .idle]
      pool := [0, 1]
      running := true
      idle := false
      inflight := 1 }

/-- The world after the first segment of the call. -/
def begun : SchedulerWorld :=
  called.withScheduler (called.scheduler.runOnce called.registry 0 0
    { spec := { kind := "android", id := "demo" }, correlationId := "only" })

end Bench

/-- A call in which only the worker takes steps is undisturbed. -/
theorem undisturbed_alone {worker index : Nat} :
    ∀ {past : List Taken}, (∀ taken ∈ past, taken.action.worker? = some worker) →
      Undisturbed worker index past
  | [], _ => trivial
  | taken :: _, alone => ⟨undisturbed_alone fun taken member =>
      alone taken (List.mem_cons_of_mem _ member), .inl (alone taken List.mem_cons_self)⟩

/-- The equivalence at a call that fails, is requeued and releases its phone: nothing strands
it, and it settles. -/
theorem run_once_settles_iff_requeued : ∃ (past : List Taken) (finish : SchedulerWorld),
    past.length = 5 ∧ scheduled 0 past = 1 ∧
    (((∀ lease ∈ acquired 0 past, finish.registry.leases lease.deviceId ≠ some lease) ∧
      ∃ final, finish.scheduler.records[0]? = some final ∧
        (final.state.terminal = true ∨ scheduled 0 past = 1)) ↔
    ¬(TaskState.pending.terminal = false ∧
        ∃ error, Bench.registry.couldEverMatch {} = .error error) ∧
      ∀ taken ∈ past, ¬Taken.strands Bench.config 0 taken) := by
  have passed : (Transition.trace (Transition.guarded (step Bench.config)
      fun _ action => action.worker? = some 0) [] Bench.begun
        [.leased 0 0, .sinkReturned 0, .executed 0 (.retryable "no such element" false) 0,
          .sinkReturned 0, .released 0]).any (fun reached => decide (
            reached.1.length = 5 ∧ scheduled 0 reached.1 = 1 ∧ Inside 0 reached.1 ∧
            (∀ taken ∈ reached.1, taken.action.worker? = some 0) ∧
            reached.2.scheduler.workers[0]? = some .idle)) = true := by
    decide +kernel
  obtain ⟨past, finish, history, shown⟩ := Transition.traces passed
  obtain ⟨five, once, inside, alone, returned⟩ := of_decide_eq_true shown
  have fair : Transition.History (step Bench.config) Fair Bench.begun past finish :=
    history.mono fun {state action} own => by
      cases action with
      | others registry => cases own
      | _ => trivial
  exact ⟨past, finish, five, once,
    run_once_settles_iff (by rfl : Bench.called.scheduler.workers[0]? = some .idle) (by rfl) fair
      inside (undisturbed_alone alone) returned⟩

/-- **A call can strand its phone and its task.** The sink raises on the RUNNING announcement:
the lease stays in the table and the record stays RUNNING without a retry. It raises on the
PENDING announcement: the record stays PENDING without a retry. -/
theorem run_once_strands :
    (∃ (past : List Taken) (finish : SchedulerWorld),
      Transition.History (step Bench.config) (fun _ action => action.worker? = some 0)
        Bench.begun past finish ∧
      finish.scheduler.workers[0]? = some .idle ∧
      acquired 0 past = [⟨"phone-a", 0⟩] ∧
      finish.registry.leases "phone-a" = some ⟨"phone-a", 0⟩ ∧
      finish.scheduler.records[0]?.map TaskRecord.state = some .running ∧
      scheduled 0 past = 0 ∧ finish.scheduler.retries = []) ∧
    (∃ (past : List Taken) (finish : SchedulerWorld),
      Transition.History (step Bench.config) (fun _ action => action.worker? = some 0)
        Bench.begun past finish ∧
      finish.scheduler.workers[0]? = some .idle ∧
      finish.scheduler.records[0]?.map TaskRecord.state = some .pending ∧
      scheduled 0 past = 0 ∧ finish.scheduler.retries = []) := by
  constructor
  · have passed : (Transition.trace (Transition.guarded (step Bench.config)
        fun _ action => action.worker? = some 0) [] Bench.begun
          [.leased 0 0, .sinkRaised 0]).any (fun reached => decide (
            reached.2.scheduler.workers[0]? = some .idle ∧
            acquired 0 reached.1 = [⟨"phone-a", 0⟩] ∧
            reached.2.registry.leases "phone-a" = some ⟨"phone-a", 0⟩ ∧
            reached.2.scheduler.records[0]?.map TaskRecord.state = some .running ∧
            scheduled 0 reached.1 = 0 ∧ reached.2.scheduler.retries = [])) = true := by
      decide +kernel
    obtain ⟨past, finish, history, shown⟩ := Transition.traces passed
    exact ⟨past, finish, history, of_decide_eq_true shown⟩
  · have passed : (Transition.trace (Transition.guarded (step Bench.config)
        fun _ action => action.worker? = some 0) [] Bench.begun
          [.leased 0 0, .sinkReturned 0, .executed 0 (.retryable "no such element" false) 0,
            .sinkRaised 0, .released 0]).any (fun reached => decide (
            reached.2.scheduler.workers[0]? = some .idle ∧
            reached.2.scheduler.records[0]?.map TaskRecord.state = some .pending ∧
            scheduled 0 reached.1 = 0 ∧ reached.2.scheduler.retries = [])) = true := by
      decide +kernel
    obtain ⟨past, finish, history, shown⟩ := Transition.traces passed
    exact ⟨past, finish, history, of_decide_eq_true shown⟩

end DeviceOrchestrator
