import DeviceOrchestrator.Lib.Fifo
import DeviceOrchestrator.Verif.Resubmission

/-!
# Stopping the scheduler

`stop` puts one poison pill for each worker behind everything that is queued and awaits the workers.
A worker returns only on a pill, so the pills in the queue are as many as the workers that are left
(`Staffed`), and the last worker returns after the whole queue was worked off. `start` may run while
a `stop` awaits its workers, and its workers then take pills that were meant for the others; the
runs considered here exclude that.
-/
namespace DeviceOrchestrator

/-- Whether a worker has not returned. -/
def Worker.alive : Worker → Bool
  | exited => false
  | idle | busy _ _ => true

namespace Scheduler

/-- The workers that have not returned. -/
def staff (scheduler : Scheduler) : Nat := scheduler.workers.countP Worker.alive

/-- The poison pills in the queue. -/
def pills (scheduler : Scheduler) : Nat := scheduler.queue.count none

/-- What only `start` and `stop` change. -/
def roster (scheduler : Scheduler) : List Nat × List (List Nat) × Bool :=
  (scheduler.pool, scheduler.stopping, scheduler.running)

variable {scheduler after : Scheduler} {worker index : Nat} {record : TaskRecord}

@[simp]
theorem roster_settleIdle : scheduler.settleIdle.roster = scheduler.roster := by
  unfold settleIdle
  split <;> rfl

@[simp]
theorem roster_leave : (scheduler.leave worker).roster = scheduler.roster := by
  simp only [leave, roster_settleIdle]
  rfl

/-- A worker goes on, and has not returned before or after; it may have taken an id. -/
structure Works (scheduler : Scheduler) (worker : Nat) (taken : List (Option TaskId))
    (after : Scheduler) : Prop where
  /-- Only this worker moves. -/
  workers : ∃ new, new.alive = true ∧ after.workers = scheduler.workers.set worker new
  /-- What it took stood at the front. -/
  queue : scheduler.queue = taken ++ after.queue
  /-- The roster stays. -/
  roster : after.roster = scheduler.roster

/-- A worker that advances or leaves works. -/
theorem Works.of_leave : Works scheduler worker [] (scheduler.leave worker) :=
  ⟨⟨.idle, rfl, workers_leave _ _⟩, by simp, by simp⟩

/-- A worker that leaves, or goes on to release its lease, works. -/
theorem Works.of_unwind (lease : Option Lease) :
    Works scheduler worker [] (scheduler.unwind worker index lease) := by
  cases lease with
  | none => exact .of_leave
  | some lease => exact ⟨⟨_, rfl, rfl⟩, rfl, rfl⟩

/-- A worker that requeues its record works. -/
theorem Works.of_requeue {lease : Option Lease}
    (went : Requeue scheduler worker index record lease after) :
    Works scheduler worker [] after := by
  cases went with
  | exhausted error spent => exact ⟨⟨_, rfl, rfl⟩, rfl, rfl⟩
  | delayed delay left small => exact ⟨⟨_, rfl, rfl⟩, rfl, rfl⟩
  | overflow left large => exact .of_unwind lease

/-- A worker that takes an id works. -/
theorem Works.of_take {registry : Registry} {taskId : TaskId} {rest : List (Option TaskId)}
    (head : scheduler.queue = some taskId :: rest) :
    Works scheduler worker [some taskId] (scheduler.takeTask registry worker taskId rest) := by
  have went := takeTask_cases registry worker taskId rest scheduler
  generalize scheduler.takeTask registry worker taskId rest = after at went ⊢
  have left : Works scheduler worker [some taskId]
      (({ scheduler with
        queue := rest
        inflight := scheduler.inflight + 1 } : Scheduler).leave worker) :=
    ⟨⟨.idle, rfl, workers_leave _ _⟩, by simp [head], roster_leave.trans (by rfl)⟩
  cases went with
  | skipped skips => exact left
  | raised index record error named known unskipped raised => exact left
  | abandoned index record error named known unskipped =>
    exact ⟨⟨_, rfl, rfl⟩, head, rfl⟩
  | acquiring index record named known unskipped =>
    exact ⟨⟨_, rfl, rfl⟩, head, rfl⟩

/-- What follows a sink that returned is work; the retry that is created is asleep. -/
theorem Works.of_sinkReturned {point : Point}
    (went : scheduler.sinkReturned worker index record point = some after) :
    Works scheduler worker [] after := by
  cases point with
  | abandoning => cases went; exact .of_leave
  | announcing => cases went; exact .of_leave
  | starting lease attempt => cases went; exact ⟨⟨_, rfl, rfl⟩, rfl, rfl⟩
  | failing lease => cases went; exact .of_unwind lease
  | requeueing lease delay =>
    cases went
    cases lease with
    | none =>
      exact ⟨⟨.idle, rfl, workers_leave _ _⟩, by simp [unwind], roster_leave.trans (by rfl)⟩
    | some lease => exact ⟨⟨_, rfl, rfl⟩, rfl, rfl⟩
  | acquiring => cases went
  | executing lease attempt => cases went
  | quarantining lease reason => cases went
  | releasing lease => cases went

end Scheduler

namespace SchedulerWorld

open Scheduler

variable {config : SchedulerConfig} {world after : SchedulerWorld} {action : SchedulerAction}

/-- What a step takes off the queue. -/
def gets (taken : Taken) : List (Option TaskId) :=
  match taken.action with
  | .take _ => taken.before.scheduler.queue.take 1
  | _ => []

/-- What a step puts on the queue. -/
def puts (config : SchedulerConfig) (taken : Taken) : List (Option TaskId) :=
  match taken.action with
  | .submit spec _ => if spec.kind ∈ config.kinds then [some spec.id] else []
  | .retryDue position =>
    taken.before.scheduler.retries[position]?.toList.map fun retry => some retry.taskId
  | .stop =>
    if taken.before.scheduler.running then
      List.replicate taken.before.scheduler.pool.length none
    else []
  | _ => []

/-- **What one step is to the staff and to the queue.** -/
inductive Staffing (config : SchedulerConfig) (taken : Taken) : Prop
  /-- A worker goes on. -/
  | works (worker : Nat) (old : Worker) (ids : List TaskId) :
      taken.before.scheduler.workers[worker]? = some old → old.alive = true →
      Works taken.before.scheduler worker (ids.map some) taken.after.scheduler →
      gets taken = ids.map some → ids.length ≤ 1 → puts config taken = [] →
      Staffing config taken
  /-- Only the queue may grow. -/
  | rests (ids : List TaskId) :
      taken.after.scheduler.workers = taken.before.scheduler.workers →
      taken.after.scheduler.queue = taken.before.scheduler.queue ++ ids.map some →
      taken.after.scheduler.roster = taken.before.scheduler.roster →
      gets taken = [] → puts config taken = ids.map some → Staffing config taken
  /-- A worker returns on a pill. -/
  | leaves (worker : Nat) : taken.before.scheduler.workers[worker]? = some .idle →
      taken.after.scheduler.workers = taken.before.scheduler.workers.set worker .exited →
      taken.before.scheduler.queue = none :: taken.after.scheduler.queue →
      taken.after.scheduler.roster = taken.before.scheduler.roster →
      gets taken = [none] → puts config taken = [] → Staffing config taken
  /-- `start` hires. -/
  | starts : taken.action = .start → taken.before.scheduler.running = false →
      taken.after.scheduler.workers =
        taken.before.scheduler.workers ++ List.replicate config.policy.workers .idle →
      taken.after.scheduler.queue = taken.before.scheduler.queue →
      taken.after.scheduler.roster = (taken.before.scheduler.pool ++
        (List.range config.policy.workers).map (taken.before.scheduler.workers.length + ·),
        taken.before.scheduler.stopping, true) →
      gets taken = [] → puts config taken = [] → Staffing config taken
  /-- `stop` gathers. -/
  | stops : taken.action = .stop → taken.before.scheduler.running = true →
      taken.after.scheduler.workers = taken.before.scheduler.workers →
      taken.after.scheduler.queue = taken.before.scheduler.queue ++
        List.replicate taken.before.scheduler.pool.length none →
      taken.after.scheduler.roster = (taken.before.scheduler.pool,
        taken.before.scheduler.stopping ++ [taken.before.scheduler.pool], false) →
      gets taken = [] →
      puts config taken = List.replicate taken.before.scheduler.pool.length none →
      Staffing config taken
  /-- A `stop` returns. -/
  | returns (call : Nat) (gathered : List Nat) : taken.action = .stopped call →
      taken.before.scheduler.stopping[call]? = some gathered →
      (∀ worker ∈ gathered, taken.before.scheduler.workers[worker]? = some .exited) →
      taken.after.scheduler.workers = taken.before.scheduler.workers →
      taken.after.scheduler.queue = taken.before.scheduler.queue →
      taken.after.scheduler.roster =
        ([], taken.before.scheduler.stopping.eraseIdx call, taken.before.scheduler.running) →
      gets taken = [] → puts config taken = [] → Staffing config taken

/-- A turn of a busy worker is work. -/
theorem Staffing.of_busy {worker index : Nat} {point : Point}
    (busy : world.scheduler.workers[worker]? = some (.busy index point))
    (went : Works world.scheduler worker [] after.scheduler)
    (gets_ : gets ⟨world, action, after⟩ = []) (puts_ : puts config ⟨world, action, after⟩ = []) :
    Staffing config ⟨world, action, after⟩ :=
  .works worker (.busy index point) [] busy rfl went gets_ (Nat.zero_le 1) puts_

/-- A `stop` returns once all workers it gathered have returned. -/
theorem stopped_step {call : Nat} (taken : step config world (.stopped call) = some after) :
    ∃ gathered, world.scheduler.stopping[call]? = some gathered ∧
      (∀ worker ∈ gathered, world.scheduler.workers[worker]? = some .exited) ∧
      after.scheduler = { world.scheduler with
        pool := []
        stopping := world.scheduler.stopping.eraseIdx call } := by
  simp only [step] at taken
  split at taken
  · cases taken
  · rename_i gathered found
    split at taken
    · rename_i all
      cases taken
      exact ⟨gathered, found, by simpa using all, rfl⟩
    · cases taken

/-- **Every step staffs the scheduler in one of these ways.** -/
theorem staffing_step (taken : step config world action = some after) :
    Staffing config ⟨world, action, after⟩ := by
  have effect := step_effect taken
  cases effect with
  | submit spec correlationId =>
    by_cases known : spec.kind ∈ config.kinds
    · apply Staffing.rests [spec.id] <;> simp [withScheduler, Scheduler.submit, known, gets, puts]
      rfl
    · apply Staffing.rests [] <;> simp [withScheduler, Scheduler.submit, known, gets, puts]
      rfl
  | start =>
    cases runs : world.scheduler.running with
    | true =>
      apply Staffing.rests [] <;> simp [withScheduler, Scheduler.start, runs, gets, puts]
    | false =>
      apply Staffing.starts <;> simp [withScheduler, Scheduler.start, runs, gets, puts, roster]
  | stop =>
    cases runs : world.scheduler.running with
    | false =>
      apply Staffing.rests [] <;> simp [withScheduler, Scheduler.stop, runs, gets, puts]
    | true =>
      apply Staffing.stops <;> simp [withScheduler, Scheduler.stop, runs, gets, puts, roster]
  | stopped call stopping =>
    obtain ⟨gathered, found, all, scheduler⟩ := stopped_step taken
    have same := congrArg Scheduler.roster scheduler
    exact .returns call gathered rfl found all (by rfl) (by rfl) same (by rfl) (by rfl)
  | pill worker rest idle head =>
    apply Staffing.leaves worker idle (by rfl) head (by rfl) _ (by rfl)
    simp [gets, head]
  | take worker taskId rest idle head =>
    apply Staffing.works worker .idle [taskId] idle rfl (.of_take head) _ (by simp) (by rfl)
    simp [gets, head]
  | leased worker token index record device attempts busy known free fresh length =>
    exact .of_busy busy ⟨⟨_, rfl, rfl⟩, rfl, rfl⟩ rfl rfl
  | leaseTimeout worker draw index record after busy known went =>
    exact .of_busy busy (.of_requeue went) rfl rfl
  | leaseError worker index record error busy known raised =>
    exact .of_busy busy .of_leave rfl rfl
  | sinkReturned worker index point record after busy known went =>
    exact .of_busy busy (.of_sinkReturned went) rfl rfl
  | sinkRaised worker index point record after busy known went =>
    obtain ⟨lease, rfl⟩ := sinkRaised_unwind went
    exact .of_busy busy (.of_unwind lease) rfl rfl
  | executed worker outcome draw index lease attempt record ended after busy known same went =>
    cases went with
    | succeeded value => exact .of_busy busy ⟨⟨_, rfl, rfl⟩, rfl, rfl⟩ rfl rfl
    | rejected message => exact .of_busy busy ⟨⟨_, rfl, rfl⟩, rfl, rfl⟩ rfl rfl
    | blamed outcome reason wired blames online =>
      exact .of_busy busy ⟨⟨_, rfl, rfl⟩, rfl, rfl⟩ rfl rfl
    | requeued outcome after fails excused went =>
      have moved := Works.of_requeue went
      exact .of_busy busy ⟨moved.workers, moved.queue, moved.roster⟩ rfl rfl
  | quarantined worker draw index lease reason record after busy known went =>
    exact .of_busy busy (.of_requeue went) rfl rfl
  | quarantineRaised worker index lease reason record busy known =>
    exact .of_busy busy ⟨⟨_, rfl, rfl⟩, rfl, rfl⟩ rfl rfl
  | releasedQuietly worker index lease record busy known pending =>
    exact .of_busy busy .of_leave rfl rfl
  | released worker index lease record busy known settled =>
    exact .of_busy busy ⟨⟨_, rfl, rfl⟩, rfl, rfl⟩ rfl rfl
  | retryDue position retry found =>
    apply Staffing.rests [retry.taskId]
    · simp [withScheduler]
    · simp [withScheduler]
    · exact roster_settleIdle.trans (by rfl)
    · rfl
    · simp [puts, found]
  | others registry => exact .rests [] rfl (by simp) rfl rfl rfl

/-! ## Who is on duty -/

/-- `start` waits until the `stop` before it has returned. -/
def Ordered (world : SchedulerWorld) : SchedulerAction → Prop
  | .start => world.scheduler.stopping = []
  | _ => True

instance (world : SchedulerWorld) : ∀ action, Decidable (Ordered world action)
  | .start => inferInstanceAs (Decidable (_ = _))
  | .submit _ _ | .stop | .stopped _ | .take _ | .leased _ _ | .leaseTimeout _ _
  | .leaseError _ | .sinkReturned _ | .sinkRaised _ | .executed _ _ _ | .quarantined _ _
  | .quarantineRaised _ | .released _ | .retryDue _ | .others _ =>
    inferInstanceAs (Decidable True)

/-- What happens while a `stop` awaits its workers: it does not return, and nobody starts. -/
def Meanwhile (_ : SchedulerWorld) : SchedulerAction → Prop
  | .start | .stopped _ => False
  | _ => True

instance (world : SchedulerWorld) : ∀ action, Decidable (Meanwhile world action)
  | .start | .stopped _ => inferInstanceAs (Decidable False)
  | .submit _ _ | .stop | .take _ | .leased _ _ | .leaseTimeout _ _ | .leaseError _
  | .sinkReturned _ | .sinkRaised _ | .executed _ _ _ | .quarantined _ _
  | .quarantineRaised _ | .released _ | .retryDue _ | .others _ =>
    inferInstanceAs (Decidable True)

end SchedulerWorld

namespace Scheduler

/-- Every worker that has not returned is one of these. -/
def Among (scheduler : Scheduler) (pool : List Nat) : Prop :=
  ∀ (worker : Nat) (state : Worker), scheduler.workers[worker]? = some state →
    state.alive = true → worker ∈ pool

/-- **Who is on duty.** -/
inductive Staffed (config : SchedulerConfig) (scheduler : Scheduler) : Prop
  /-- Nobody. -/
  | off : scheduler.roster = ([], [], false) → scheduler.staff = 0 → scheduler.pills = 0 →
      Staffed config scheduler
  /-- The pool, and no pill is queued. -/
  | on (pool : List Nat) : scheduler.roster = (pool, [], true) →
      pool.length = config.policy.workers → scheduler.staff = pool.length →
      scheduler.pills = 0 → scheduler.Among pool → Staffed config scheduler
  /-- Those of the pool that have not returned, and each has a pill. -/
  | closing (pool : List Nat) : scheduler.roster = (pool, [pool], false) →
      scheduler.pills = scheduler.staff → scheduler.Among pool → Staffed config scheduler

variable {config : SchedulerConfig} {scheduler after : Scheduler}

/-- Where nobody is on duty every worker has returned. -/
theorem exited_of_staff (nobody : scheduler.staff = 0) {worker : Worker}
    (member : worker ∈ scheduler.workers) : worker = .exited := by
  have dead := List.countP_eq_zero.mp nobody worker member
  cases worker with
  | exited => rfl
  | idle => exact absurd rfl dead
  | busy index point => exact absurd rfl dead

/-- The workers, the pills and the roster decide who is on duty. -/
theorem Staffed.congr (staffed : Staffed config scheduler)
    (workers : after.workers = scheduler.workers) (pills : after.pills = scheduler.pills)
    (roster : after.roster = scheduler.roster) : Staffed config after := by
  have staff : after.staff = scheduler.staff := by rw [Scheduler.staff, workers]; rfl
  have among : ∀ pool, scheduler.Among pool → after.Among pool := by
    intro pool among worker state found
    rw [workers] at found
    exact among worker state found
  cases staffed with
  | off off nobody clean => exact .off (roster.trans off) (staff.trans nobody) (pills.trans clean)
  | on pool on size all clean members =>
    exact .on pool (roster.trans on) size (staff.trans all) (pills.trans clean)
      (among pool members)
  | closing pool closing each members =>
    exact .closing pool (roster.trans closing) (by rw [pills, staff, each]) (among pool members)

/-- A worker that works stays on duty. -/
theorem Staffed.works (staffed : Staffed config scheduler) {worker : Nat} {old : Worker}
    {ids : List TaskId} (found : scheduler.workers[worker]? = some old)
    (alive : old.alive = true) (went : Works scheduler worker (ids.map some) after) :
    Staffed config after := by
  obtain ⟨new, living, workers⟩ := went.workers
  have staff : after.staff = scheduler.staff := by
    have exchanged := Slots.countP_set Worker.alive found new
    rw [alive, living] at exchanged
    rw [Scheduler.staff, workers]
    show _ = scheduler.workers.countP Worker.alive
    omega
  have pills : after.pills = scheduler.pills := by
    have ids_ : (ids.map some).count (none : Option TaskId) = 0 := by simp [List.count_eq_zero]
    rw [Scheduler.pills, Scheduler.pills, went.queue, List.count_append, ids_, Nat.zero_add]
  have among : ∀ pool, scheduler.Among pool → after.Among pool := by
    intro pool among other state there living'
    rw [workers] at there
    rcases Slots.getElem?_rewritten there with ⟨rfl, -⟩ | ⟨-, there⟩
    · exact among other old found alive
    · exact among other state there living'
  cases staffed with
  | off off nobody clean =>
    have gone := exited_of_staff nobody (List.mem_of_getElem? found)
    rw [gone] at alive
    cases alive
  | on pool on size all clean members =>
    exact .on pool (went.roster.trans on) size (staff.trans all) (pills.trans clean)
      (among pool members)
  | closing pool closing each members =>
    exact .closing pool (went.roster.trans closing) (by rw [pills, staff, each])
      (among pool members)

/-- A worker that returns takes its pill with it. -/
theorem Staffed.leaves (staffed : Staffed config scheduler) {worker : Nat}
    (found : scheduler.workers[worker]? = some .idle)
    (workers : after.workers = scheduler.workers.set worker .exited)
    (queue : scheduler.queue = none :: after.queue) (roster : after.roster = scheduler.roster) :
    Staffed config after := by
  have pills : scheduler.pills = after.pills + 1 := by
    rw [Scheduler.pills, queue, List.count_cons_self]
    rfl
  have staff : scheduler.staff = after.staff + 1 := by
    have exchanged := Slots.countP_set Worker.alive found .exited
    rw [Scheduler.staff, Scheduler.staff, workers]
    simp only [Worker.alive, Bool.false_eq_true, ↓reduceIte] at exchanged
    omega
  cases staffed with
  | off off nobody clean => omega
  | on pool on size all clean members => omega
  | closing pool closing each members =>
    apply Staffed.closing pool (roster.trans closing) (by omega)
    intro other state there living
    rw [workers] at there
    rcases Slots.getElem?_rewritten there with ⟨-, rfl⟩ | ⟨-, there⟩
    · cases living
    · exact members other state there living

/-- `start` puts a new pool on duty. -/
theorem Staffed.starts (staffed : Staffed config scheduler) (unawaited : scheduler.stopping = [])
    (stopped : scheduler.running = false)
    (workers : after.workers =
      scheduler.workers ++ List.replicate config.policy.workers .idle)
    (queue : after.queue = scheduler.queue)
    (roster : after.roster = (scheduler.pool ++
      (List.range config.policy.workers).map (scheduler.workers.length + ·),
      scheduler.stopping, true)) : Staffed config after := by
  cases staffed with
  | off off nobody clean =>
    have empty : scheduler.pool = [] := congrArg Prod.fst off
    rw [empty, unawaited, List.nil_append] at roster
    have staff : after.staff = config.policy.workers := by
      have before : scheduler.workers.countP Worker.alive = 0 := nobody
      rw [Scheduler.staff, workers, List.countP_append, before, List.countP_replicate]
      simp [Worker.alive]
    have pills : after.pills = 0 := by
      rw [Scheduler.pills, queue]
      exact clean
    apply Staffed.on _ roster (by simp) (by simp [staff]) pills
    intro worker state there living
    rw [workers] at there
    rcases Nat.lt_or_ge worker scheduler.workers.length with inside | outside
    · rw [List.getElem?_append_left inside] at there
      rw [exited_of_staff nobody (List.mem_of_getElem? there)] at living
      cases living
    · rw [List.getElem?_append_right outside] at there
      obtain ⟨bound, -⟩ := List.getElem?_eq_some_iff.mp there
      rw [List.length_replicate] at bound
      rw [List.mem_map]
      exact ⟨worker - scheduler.workers.length, List.mem_range.mpr bound, by omega⟩
  | on pool on size all clean members =>
    have runs : scheduler.running = true := congrArg (fun roster => roster.2.2) on
    rw [stopped] at runs
    cases runs
  | closing pool closing each members =>
    have awaited : scheduler.stopping = [pool] := congrArg (fun roster => roster.2.1) closing
    rw [unawaited] at awaited
    cases awaited

/-- `stop` gives each worker of the pool a pill. -/
theorem Staffed.stops (staffed : Staffed config scheduler) (runs : scheduler.running = true)
    (workers : after.workers = scheduler.workers)
    (queue : after.queue = scheduler.queue ++ List.replicate scheduler.pool.length none)
    (roster : after.roster =
      (scheduler.pool, scheduler.stopping ++ [scheduler.pool], false)) :
    Staffed config after ∧ scheduler.pool.length = config.policy.workers ∧
      after.stopping = [scheduler.pool] := by
  cases staffed with
  | off off nobody clean =>
    have stopped : scheduler.running = false := congrArg (fun roster => roster.2.2) off
    rw [runs] at stopped
    cases stopped
  | closing pool closing each members =>
    have stopped : scheduler.running = false := congrArg (fun roster => roster.2.2) closing
    rw [runs] at stopped
    cases stopped
  | on pool on size all clean members =>
    have same : scheduler.pool = pool := congrArg Prod.fst on
    have unawaited : scheduler.stopping = [] := congrArg (fun roster => roster.2.1) on
    rw [same, unawaited, List.nil_append] at roster
    rw [same] at queue ⊢
    refine ⟨.closing pool roster ?_ ?_, size, congrArg (fun roster => roster.2.1) roster⟩
    · have staff : after.staff = pool.length := by rw [← all, Scheduler.staff, workers]; rfl
      have before : scheduler.queue.count none = 0 := clean
      rw [staff, Scheduler.pills, queue, List.count_append, before]
      simp
    · intro worker state there living
      rw [workers] at there
      exact members worker state there living

/-- A `stop` that returns leaves nobody on duty. -/
theorem Staffed.returns (staffed : Staffed config scheduler) (after : Scheduler) {call : Nat}
    {gathered : List Nat} (awaited : scheduler.stopping[call]? = some gathered)
    (all : ∀ worker ∈ gathered, scheduler.workers[worker]? = some .exited)
    (workers : after.workers = scheduler.workers) (queue : after.queue = scheduler.queue)
    (roster : after.roster = ([], scheduler.stopping.eraseIdx call, scheduler.running)) :
    after.roster = ([], [], false) ∧ after.staff = 0 ∧ after.pills = 0 := by
  have idle : ∀ pool, scheduler.stopping = [pool] → call = 0 ∧ gathered = pool := by
    intro pool stopping
    rw [stopping] at awaited
    rcases call with - | call
    · exact ⟨rfl, (Option.some.inj awaited).symm⟩
    · cases awaited
  cases staffed with
  | off off nobody clean =>
    have unawaited : scheduler.stopping = [] := congrArg (fun roster => roster.2.1) off
    rw [unawaited] at awaited
    cases awaited
  | on pool on size all' clean members =>
    have unawaited : scheduler.stopping = [] := congrArg (fun roster => roster.2.1) on
    rw [unawaited] at awaited
    cases awaited
  | closing pool closing each members =>
    have stopping : scheduler.stopping = [pool] := congrArg (fun roster => roster.2.1) closing
    have stopped : scheduler.running = false := congrArg (fun roster => roster.2.2) closing
    obtain ⟨rfl, rfl⟩ := idle pool stopping
    have staff : after.staff = 0 := by
      rw [Scheduler.staff, workers, List.countP_eq_zero]
      intro worker member living
      obtain ⟨position, bound, rfl⟩ := List.mem_iff_getElem.mp member
      have there := List.getElem?_eq_getElem bound
      have exited := all position (members position _ there living)
      rw [there] at exited
      rw [Option.some.inj exited] at living
      cases living
    have pills : after.pills = after.staff := by
      rw [Scheduler.pills, queue, Scheduler.staff, workers]
      exact each
    refine ⟨?_, staff, pills.trans staff⟩
    rw [roster, stopping, stopped]
    rfl

end Scheduler

namespace SchedulerWorld

open Scheduler

variable {config : SchedulerConfig} {world after : SchedulerWorld} {action : SchedulerAction}

/-- **Every ordered step keeps the duty.** -/
theorem staffed_step (staffed : Staffed config world.scheduler) (ordered : Ordered world action)
    (taken : step config world action = some after) : Staffed config after.scheduler := by
  have pills : ∀ ids : List TaskId, (ids.map some).count (none : Option TaskId) = 0 := by
    intro ids
    simp [List.count_eq_zero]
  cases staffing_step taken with
  | works worker old ids found alive went gets_ single puts_ =>
    exact staffed.works found alive went
  | rests ids workers queue roster gets_ puts_ =>
    apply staffed.congr workers _ roster
    rw [Scheduler.pills, queue, List.count_append, pills, Nat.add_zero]
    rfl
  | leaves worker found workers queue roster gets_ puts_ =>
    exact staffed.leaves found workers queue roster
  | starts started stopped workers queue roster gets_ puts_ =>
    cases started
    exact staffed.starts ordered stopped workers queue roster
  | stops stopped runs workers queue roster gets_ puts_ =>
    exact (staffed.stops runs workers queue roster).1
  | returns call gathered returned awaited all workers queue roster gets_ puts_ =>
    obtain ⟨off, nobody, clean⟩ := staffed.returns _ awaited all workers queue roster
    exact .off off nobody clean

/-- **Every step moves the queue at its ends.** -/
theorem queue_moves (taken : step config world action = some after) :
    Fifo.Moves world.scheduler.queue after.scheduler.queue (gets ⟨world, action, after⟩)
      (puts config ⟨world, action, after⟩) := by
  cases staffing_step taken with
  | works worker old ids found alive went gets_ single puts_ =>
    rw [gets_, puts_]
    have queue := went.queue
    rcases ids with - | ⟨taskId, rest⟩
    · exact .joins [] (by simpa using queue.symm)
    · obtain rfl : rest = [] := by simpa using single
      exact .leaves (some taskId) (by simpa using queue)
  | rests ids workers queue roster gets_ puts_ =>
    rw [gets_, puts_]
    exact .joins _ queue
  | leaves worker found workers queue roster gets_ puts_ =>
    rw [gets_, puts_]
    exact .leaves none queue
  | starts started stopped workers queue roster gets_ puts_ =>
    rw [gets_, puts_]
    exact .joins [] (by simpa using queue)
  | stops stopped runs workers queue roster gets_ puts_ =>
    rw [gets_, puts_]
    exact .joins _ queue
  | returns call gathered returned awaited all workers queue roster gets_ puts_ =>
    rw [gets_, puts_]
    exact .joins [] (by simpa using queue)

/-- **Every ordered run keeps the duty.** -/
theorem staffed_run (run : Transition.Run (step config) Ordered {} world) :
    Staffed config world.scheduler := by
  apply run.invariant (fun world => Staffed config world.scheduler)
  · exact .off rfl rfl rfl
  · intro state action after _ staffed ordered taken
    exact staffed_step staffed ordered taken

/-- While a `stop` awaits its workers it stays the one that is awaited. -/
theorem awaited_step {pool : List Nat} (staffed : Staffed config world.scheduler)
    (awaited : world.scheduler.stopping = [pool]) (meanwhile : Meanwhile world action)
    (taken : step config world action = some after) :
    Staffed config after.scheduler ∧ after.scheduler.stopping = [pool] := by
  have ordered : Ordered world action := by
    cases action with
    | start => exact meanwhile.elim
    | _ => trivial
  refine ⟨staffed_step staffed ordered taken, ?_⟩
  rw [← awaited]
  cases staffing_step taken with
  | works worker old ids found alive went gets_ single puts_ =>
    exact congrArg (fun roster => roster.2.1) went.roster
  | rests ids workers queue roster gets_ puts_ => exact congrArg (fun roster => roster.2.1) roster
  | leaves worker found workers queue roster gets_ puts_ =>
    exact congrArg (fun roster => roster.2.1) roster
  | starts started stopped workers queue roster gets_ puts_ =>
    cases started
    exact meanwhile.elim
  | stops stopped runs workers queue roster gets_ puts_ =>
    have unawaited : world.scheduler.stopping = [] := by
      cases staffed with
      | off off nobody clean => exact congrArg (fun roster => roster.2.1) off
      | on pool on size all clean members => exact congrArg (fun roster => roster.2.1) on
      | closing pool closing each members =>
        have off : world.scheduler.running = false := congrArg (fun roster => roster.2.2) closing
        rw [runs] at off
        cases off
    rw [awaited] at unawaited
    cases unawaited
  | returns call gathered returned found all workers queue roster gets_ puts_ =>
    cases returned
    exact meanwhile.elim

end SchedulerWorld

open SchedulerWorld Scheduler

/-- **`stop` is graceful.** In every run in which no `start` overlaps a `stop` and no worker is
cancelled, whatever targets, sinks and the monitor do otherwise: when `stop` returns, every worker
has returned and no pill is left in the queue; everything that was queued when it was called has
been taken, in its order and before anything that was queued later; and the queue holds only what
came later. -/
theorem stop_graceful {config : SchedulerConfig} {before called waiting after : SchedulerWorld}
    {past : List SchedulerWorld.Taken} {call : Nat} (staff : 0 < config.policy.workers)
    (reached : Transition.Run (step config) Ordered {} before)
    (runs : before.scheduler.running = true) (stops : step config before .stop = some called)
    (meanwhile : Transition.History (step config) Meanwhile called past waiting)
    (returns : step config waiting (.stopped call) = some after) :
    (∀ worker ∈ after.scheduler.workers, worker = .exited) ∧ none ∉ after.scheduler.queue ∧
      before.scheduler.queue <+: Fifo.along gets past ∧
      called.scheduler.queue ++ Fifo.along (puts config) past =
        Fifo.along gets past ++ after.scheduler.queue ∧
      after.scheduler.queue <:+ Fifo.along (puts config) past := by
  have pressed : called.scheduler = { before.scheduler with
      running := false
      queue := before.scheduler.queue ++ List.replicate before.scheduler.pool.length none
      stopping := before.scheduler.stopping ++ [before.scheduler.pool] } := by
    cases stops
    simp [withScheduler, Scheduler.stop, runs]
  have queue : called.scheduler.queue =
      before.scheduler.queue ++ List.replicate before.scheduler.pool.length none := by
    rw [pressed]
  obtain ⟨closing, size, awaited⟩ := (staffed_run reached).stops runs (by rw [pressed]) queue
    (by rw [pressed]; rfl)
  -- The same `stop` is awaited until it returns.
  have kept : Staffed config waiting.scheduler ∧
      waiting.scheduler.stopping = [before.scheduler.pool] := by
    apply meanwhile.run.invariant (fun world =>
      Staffed config world.scheduler ∧ world.scheduler.stopping = [before.scheduler.pool])
    · exact ⟨closing, awaited⟩
    · intro state action later _ both may taken
      exact awaited_step both.1 both.2 may taken
  obtain ⟨gathered, found, all, ended⟩ := stopped_step returns
  obtain ⟨-, nobody, clean⟩ := kept.1.returns after.scheduler found all
    (by rw [ended]) (by rw [ended]) (by rw [ended]; rfl)
  have away : none ∉ after.scheduler.queue := List.count_eq_zero.mp clean
  have order : called.scheduler.queue ++ Fifo.along (puts config) past =
      Fifo.along gets past ++ after.scheduler.queue := by
    have conserved := Fifo.conserved (fun world => world.scheduler.queue) gets (puts config)
      (fun _ taken => queue_moves taken) meanwhile
    have last : after.scheduler.queue = waiting.scheduler.queue := by rw [ended]
    rw [last]
    exact conserved
  have gone : called.scheduler.queue <+: Fifo.along gets past := by
    obtain ⟨fewer, more⟩ : ∃ fewer, before.scheduler.pool.length = fewer + 1 :=
      ⟨before.scheduler.pool.length - 1, by omega⟩
    rw [queue, more, List.replicate_succ', ← List.append_assoc] at order ⊢
    exact Fifo.passed order away
  refine ⟨fun worker member => exited_of_staff nobody member, away, ?_, order, ?_⟩
  · exact List.IsPrefix.trans ⟨_, queue.symm⟩ gone
  · obtain ⟨rest, split⟩ := gone
    rw [← split, List.append_assoc, List.append_cancel_left_eq] at order
    exact ⟨rest, order.symm⟩

namespace Bench

/-- Two tasks are queued for two workers. -/
def twoQueued : List SchedulerAction :=
  [.others registry, .start, .submit spec "first", .submit { spec with id := "other" } "second"]

/-- The workers finish both tasks and return, while a third one is submitted. -/
def worksOff : List SchedulerAction :=
  [.take 0, .leased 0 0, .sinkReturned 0, .submit { spec with id := "late" } "third",
    .executed 0 (.result .null) 0, .released 0, .sinkReturned 0, .take 0, .leased 0 1,
    .sinkReturned 0, .executed 0 (.result .null) 0, .released 0, .sinkReturned 0, .take 1, .take 0]

end Bench

/-- A `stop` that finds two tasks in the queue; the one that comes later is left. -/
theorem stop_graceful_two : ∃ (before after : SchedulerWorld) (past : List SchedulerWorld.Taken),
    before.scheduler.queue = [some "demo", some "other"] ∧
      after.scheduler.queue = [some "late"] ∧
      (∀ worker ∈ after.scheduler.workers, worker = .exited) ∧
      before.scheduler.queue <+: Fifo.along gets past := by
  have passed : ((Transition.execute (Transition.guarded (step Bench.config) Ordered) {}
      Bench.twoQueued).any fun before => before.scheduler.running &&
        decide (before.scheduler.queue = [some "demo", some "other"]) &&
        (step Bench.config before .stop).any fun called =>
          (Transition.trace (Transition.guarded (step Bench.config) Meanwhile) [] called
            Bench.worksOff).any fun reached =>
              (step Bench.config reached.2 (.stopped 0)).any fun after =>
                decide (after.scheduler.queue = [some "late"])) = true := by
    decide +kernel
  obtain ⟨before, reached, shown⟩ := Transition.reaches passed
  rw [Bool.and_eq_true, Bool.and_eq_true, decide_eq_true_eq] at shown
  obtain ⟨⟨runs, queued⟩, shown⟩ := shown
  cases stops : step Bench.config before .stop with
  | none => simp [stops] at shown
  | some called =>
    rw [stops, Option.any_some] at shown
    obtain ⟨past, waiting, meanwhile, shown⟩ := Transition.traces shown
    cases returns : step Bench.config waiting (.stopped 0) with
    | none => simp [returns] at shown
    | some after =>
      rw [returns, Option.any_some, decide_eq_true_eq] at shown
      have graceful := stop_graceful (by decide) reached runs stops meanwhile returns
      exact ⟨before, after, past, queued, shown, graceful.1, graceful.2.2.1⟩

end DeviceOrchestrator
