import Mathlib.Data.Fintype.EquivFin
import DeviceOrchestrator.Lib.Potential
import DeviceOrchestrator.Verif.Drain

/-!
# How much the scheduler still has to do

Every attempt of a record uses up one of its attempts, and what a worker, a token or a sleeping
retry can still cause is bounded by the attempts that are left (`work`). So once nothing is
submitted any more, the coroutines take only so many steps, and only a lease that times out, which
uses up no attempt, adds to them.
-/
namespace DeviceOrchestrator

/-- Attempts that `_requeue` still allows. -/
def TaskRecord.left (record : TaskRecord) : Nat :=
  (record.spec.maxAttempts - record.attemptCount).toNat

/-- What a worker still does to give a lease back and announce the record. -/
def unwindWork (lease : Option Lease) : Nat := if lease.isSome then 2 else 0

namespace Scheduler

/-- Attempts that are left to a record. -/
def leftAt (scheduler : Scheduler) (index : Nat) : Nat :=
  (scheduler.records[index]?).elim 0 TaskRecord.left

/-- What a token of an id can still cause: nine steps for each attempt, from `queue.get` to the
next token, but for the last attempt one less. -/
def tokenWork (scheduler : Scheduler) (taskId : TaskId) : Nat :=
  8 + 9 * ((scheduler.table taskId).elim 0 scheduler.leftAt - 1)

/-- What `_requeue` can still cause. -/
def requeueWork (scheduler : Scheduler) (record : TaskRecord) (lease : Option Lease) : Nat :=
  if record.left = 0 then 1 + unwindWork lease
  else 2 + unwindWork lease + scheduler.tokenWork record.spec.id

/-- What a worker inside a call can still cause. A record that its id does not name any more leaves
the attempts of the record that it names alone. -/
def pointWork (scheduler : Scheduler) (index : Nat) (record : TaskRecord) : Point → Nat
  | .abandoning | .announcing => 1
  | .releasing _ => 2
  | .failing lease => 1 + unwindWork lease
  | .requeueing lease _ => 2 + unwindWork lease + scheduler.tokenWork record.spec.id
  | .quarantining lease _ => 1 + scheduler.requeueWork record (some lease)
  | .executing lease _ => 2 + scheduler.requeueWork record (some lease)
  | .starting lease _ => 3 + scheduler.requeueWork record (some lease)
  | .acquiring =>
    if scheduler.table record.spec.id = some index then scheduler.tokenWork record.spec.id - 1
    else 8 + scheduler.tokenWork record.spec.id

/-- What a worker can still cause. -/
def workerWork (scheduler : Scheduler) : Worker → Nat
  | .busy index point => (scheduler.records[index]?).elim 0 (scheduler.pointWork index · point)
  | .idle | .exited => 0

/-- What an entry of the queue can still cause. -/
def entryWork (scheduler : Scheduler) : Option TaskId → Nat
  | some taskId => scheduler.tokenWork taskId
  | none => 1

/-- What a sleeping retry can still cause. -/
def retryWork (scheduler : Scheduler) (retry : Retry) : Nat := 1 + scheduler.tokenWork retry.taskId

/-- What the queue and the retries of a scheduler can still cause. -/
def backlogWork (scheduler holder : Scheduler) : Nat :=
  (holder.queue.map scheduler.entryWork).sum + (holder.retries.map scheduler.retryWork).sum

/-- **What the scheduler can still do** of itself, lease timeouts apart. -/
def work (scheduler : Scheduler) : Nat :=
  (scheduler.workers.map scheduler.workerWork).sum + scheduler.backlogWork scheduler

/-- Specifications stay, and no record gains attempts. -/
structure Eases (scheduler after : Scheduler) : Prop extends SameSpecs scheduler after where
  /-- No record gains attempts. -/
  left : ∀ index, after.leftAt index ≤ scheduler.leftAt index

variable {scheduler after : Scheduler} {worker index : Nat} {record new : TaskRecord}
variable {old : Worker} {point : Point} {lease : Option Lease}

/-- The attempts that are left to a known record. -/
theorem leftAt_known (known : scheduler.records[index]? = some record) :
    scheduler.leftAt index = record.left := by
  simp [leftAt, known]

/-- A worker inside a call on a known record. -/
theorem workerWork_busy (known : scheduler.records[index]? = some record) (point : Point) :
    scheduler.workerWork (.busy index point) = scheduler.pointWork index record point := by
  simp [workerWork, known]

/-- A token can cause at least the steps of one attempt. -/
theorem tokenWork_pos (scheduler : Scheduler) (taskId : TaskId) :
    8 ≤ scheduler.tokenWork taskId := by
  unfold tokenWork
  omega

/-- `_requeue` and what follows it cause at least what a release does. -/
theorem requeueWork_pos (scheduler : Scheduler) (record : TaskRecord) (lease : Lease) :
    3 ≤ scheduler.requeueWork record (some lease) := by
  simp only [requeueWork, unwindWork, Option.isSome_some, if_true]
  split <;> omega

namespace Eases

/-- Records that stay. -/
theorem of_eq (table : after.table = scheduler.table)
    (records : after.records = scheduler.records) : Eases scheduler after :=
  ⟨.of_eq table records, fun index => by rw [leftAt, leftAt, records]⟩

/-- A record that is rewritten without gaining attempts. -/
theorem of_set (table : after.table = scheduler.table)
    (records : after.records = scheduler.records.set index new)
    (known : scheduler.records[index]? = some record) (same : new.spec = record.spec)
    (fewer : new.left ≤ record.left) : Eases scheduler after := by
  refine ⟨.of_set table records known same, fun other => ?_⟩
  by_cases here : other = index
  · subst here
    obtain ⟨bound, -⟩ := List.getElem?_eq_some_iff.mp known
    have there : after.records[other]? = some new := by simp [records, bound]
    rwa [leftAt_known there, leftAt_known known]
  · rw [leftAt, leftAt, records, List.getElem?_set_ne (Ne.symm here)]

/-- A known record stays known, with its specification and no more attempts. -/
theorem knows (eases : Eases scheduler after)
    (known : scheduler.records[index]? = some record) :
    ∃ new, after.records[index]? = some new ∧ new.spec = record.spec ∧
      new.left ≤ record.left := by
  have specs := congrArg (fun specs : List TaskSpec => specs[index]?) eases.specs
  simp only [List.getElem?_map, known, Option.map_some] at specs
  obtain ⟨new, there, same⟩ := Option.map_eq_some_iff.mp specs
  have fewer := eases.left index
  rw [leftAt_known there, leftAt_known known] at fewer
  exact ⟨new, there, same, fewer⟩

/-- An unknown record stays unknown. -/
theorem unknown (eases : Eases scheduler after) (missing : scheduler.records[index]? = none) :
    after.records[index]? = none := by
  have specs := congrArg (fun specs : List TaskSpec => specs[index]?) eases.specs
  simpa [missing] using specs

/-- A token can cause no more. -/
theorem token (eases : Eases scheduler after) (taskId : TaskId) :
    after.tokenWork taskId ≤ scheduler.tokenWork taskId := by
  unfold tokenWork
  rw [eases.table]
  cases scheduler.table taskId with
  | none => simp
  | some index =>
    have fewer := eases.left index
    simp only [Option.elim_some]
    omega

/-- `_requeue` can cause no more. -/
theorem requeues (eases : Eases scheduler after) (same : new.spec = record.spec)
    (fewer : new.left ≤ record.left) (lease : Option Lease) :
    after.requeueWork new lease ≤ scheduler.requeueWork record lease := by
  have token := eases.token record.spec.id
  unfold requeueWork
  rw [same]
  split <;> split <;> omega

/-- A worker at an await can cause no more. -/
theorem awaits (eases : Eases scheduler after) (same : new.spec = record.spec)
    (fewer : new.left ≤ record.left) (index : Nat) (point : Point) :
    after.pointWork index new point ≤ scheduler.pointWork index record point := by
  have token := eases.token record.spec.id
  have requeues := eases.requeues same fewer
  cases point with
  | abandoning => exact le_rfl
  | announcing => exact le_rfl
  | releasing lease => exact le_rfl
  | failing lease => exact le_rfl
  | requeueing lease delay =>
    simp only [pointWork, same]
    omega
  | quarantining lease reason => exact Nat.add_le_add_left (requeues _) _
  | executing lease attempt => exact Nat.add_le_add_left (requeues _) _
  | starting lease attempt => exact Nat.add_le_add_left (requeues _) _
  | acquiring =>
    simp only [pointWork, same, eases.table]
    split <;> omega

/-- A worker can cause no more. -/
theorem works (eases : Eases scheduler after) (worker : Worker) :
    after.workerWork worker ≤ scheduler.workerWork worker := by
  cases worker with
  | idle => exact le_rfl
  | exited => exact le_rfl
  | busy index point =>
    cases found : scheduler.records[index]? with
    | none => simp [workerWork, eases.unknown found]
    | some record =>
      obtain ⟨new, there, same, fewer⟩ := eases.knows found
      rw [workerWork_busy there, workerWork_busy found]
      exact eases.awaits same fewer index point

/-- A backlog can cause no more. -/
theorem backlog (eases : Eases scheduler after) (holder : Scheduler) :
    after.backlogWork holder ≤ scheduler.backlogWork holder := by
  have queue : (holder.queue.map after.entryWork).sum ≤
      (holder.queue.map scheduler.entryWork).sum := by
    apply Potential.sum_lighter
    rintro (- | taskId)
    · exact le_rfl
    · exact eases.token taskId
  have retries : (holder.retries.map after.retryWork).sum ≤
      (holder.retries.map scheduler.retryWork).sum := by
    apply Potential.sum_lighter
    intro retry
    exact Nat.add_le_add_left (eases.token retry.taskId) 1
  exact Nat.add_le_add queue retries

end Eases

/-- Nobody moves, and new workers cause nothing. -/
theorem work_eased (eases : Eases scheduler after) (count : Nat)
    (workers : after.workers = scheduler.workers ++ List.replicate count .idle)
    (queue : after.queue = scheduler.queue) (retries : after.retries = scheduler.retries) :
    after.work ≤ scheduler.work := by
  have crew := Potential.sum_lighter scheduler.workers eases.works
  have same : scheduler.backlogWork after = scheduler.backlogWork scheduler := by
    simp [backlogWork, queue, retries]
  have behind := eases.backlog after
  have idle : ((List.replicate count Worker.idle).map after.workerWork).sum = 0 := by
    simp [workerWork]
  simp only [work, workers, List.map_append, List.sum_append]
  omega

/-- **What a worker that moves changes**: it causes what it can cause at the new place, and the
backlog changes by what it takes and adds. -/
theorem work_moved {taken added : Nat} (eases : Eases scheduler after) (state : Worker)
    (found : scheduler.workers[worker]? = some old)
    (moved : after.workers = scheduler.workers.set worker state)
    (backlog : scheduler.backlogWork after + taken ≤ scheduler.backlogWork scheduler + added) :
    after.work + scheduler.workerWork old + taken ≤
      scheduler.work + after.workerWork state + added := by
  have rest := Potential.sum_eraseIdx scheduler.workerWork found
  have rest' := Potential.sum_eraseIdx after.workerWork found
  have lighter := Potential.sum_lighter (scheduler.workers.eraseIdx worker) eases.works
  have crew := Potential.sum_set after.workerWork found state
  have behind := eases.backlog after
  simp only [work, moved]
  omega

/-- A worker that moves and leaves the backlog alone. -/
theorem work_moved_only (eases : Eases scheduler after) (state : Worker)
    (found : scheduler.workers[worker]? = some old)
    (moved : after.workers = scheduler.workers.set worker state)
    (queue : after.queue = scheduler.queue) (retries : after.retries = scheduler.retries) :
    after.work + scheduler.workerWork old ≤ scheduler.work + after.workerWork state := by
  have same : scheduler.backlogWork after + 0 ≤ scheduler.backlogWork scheduler + 0 := by
    simp [backlogWork, queue, retries]
  simpa using work_moved eases state found moved same

/-- A worker that advances causes what it can cause at its next await. -/
theorem work_advance (found : scheduler.workers[worker]? = some old)
    (known : scheduler.records[index]? = some record) (new : TaskRecord)
    (same : new.spec = record.spec) (fewer : new.left ≤ record.left) (next : Point)
    (events : List StateEvent) :
    (scheduler.advance worker index new next events).work + scheduler.workerWork old ≤
      scheduler.work + scheduler.pointWork index record next := by
  obtain ⟨bound, -⟩ := List.getElem?_eq_some_iff.mp known
  have eases : Eases scheduler (scheduler.advance worker index new next events) :=
    .of_set rfl rfl known same fewer
  have moved := work_moved_only eases (.busy index next) found rfl rfl rfl
  have there : (scheduler.advance worker index new next events).records[index]? = some new :=
    advance_record bound
  rw [workerWork_busy there] at moved
  have fewerThere := eases.awaits same fewer index next
  omega

/-- A worker that leaves its call causes nothing more. -/
theorem work_leave (found : scheduler.workers[worker]? = some old) :
    (scheduler.leave worker).work + scheduler.workerWork old ≤ scheduler.work := by
  have eases : Eases scheduler (scheduler.leave worker) :=
    .of_eq (table_leave _ _) (records_leave _ _)
  exact work_moved_only eases .idle found (workers_leave _ _) (queue_leave _ _) (retries_leave _ _)

/-- A worker that unwinds still gives its lease back. -/
theorem work_unwind (found : scheduler.workers[worker]? = some old)
    (known : scheduler.records[index]? = some record) (lease : Option Lease) :
    (scheduler.unwind worker index lease).work + scheduler.workerWork old ≤
      scheduler.work + unwindWork lease := by
  cases lease with
  | none => exact work_leave found
  | some lease =>
    rw [unwind, place_eq known]
    exact work_advance found known record rfl le_rfl (.releasing lease) []

/-- A worker that requeues its record. -/
theorem work_requeue (found : scheduler.workers[worker]? = some old)
    (known : scheduler.records[index]? = some record)
    (went : Requeue scheduler worker index record lease after) :
    after.work + scheduler.workerWork old ≤
      scheduler.work + scheduler.requeueWork record lease := by
  cases went with
  | exhausted error spent =>
    have none_ : record.left = 0 := by
      unfold TaskRecord.left
      omega
    have advanced := work_advance found known
      { record with state := .failed, result := none, error := some error } rfl le_rfl
      (.failing lease) [{ record with state := .failed, result := none, error := some error }.event]
    simpa [requeueWork, none_, pointWork] using advanced
  | delayed delay left small =>
    have some_ : record.left ≠ 0 := by
      unfold TaskRecord.left
      omega
    have advanced := work_advance found known { record with state := .pending } rfl le_rfl
      (.requeueing lease delay) [{ record with state := .pending }.event]
    simpa [requeueWork, some_, pointWork] using advanced
  | overflow left large =>
    have unwound := work_unwind found known lease
    have least : unwindWork lease ≤ scheduler.requeueWork record lease := by
      unfold requeueWork
      split <;> omega
    omega

@[simp]
theorem work_settleIdle (scheduler : Scheduler) : scheduler.settleIdle.work = scheduler.work := by
  unfold settleIdle
  split <;> rfl

/-- Taking an entry of the queue takes what it can cause. -/
theorem work_popped {head : Option TaskId} {rest : List (Option TaskId)}
    (queue : scheduler.queue = head :: rest) (inflight : Int) :
    ({ scheduler with queue := rest, inflight := inflight } : Scheduler).work +
      scheduler.entryWork head = scheduler.work := by
  have popped : ({ scheduler with queue := rest, inflight := inflight } : Scheduler).work =
      (scheduler.workers.map scheduler.workerWork).sum + ((rest.map scheduler.entryWork).sum +
        (scheduler.retries.map scheduler.retryWork).sum) := rfl
  rw [popped, work, backlogWork, queue, List.map_cons, List.sum_cons]
  omega

/-- A retry adds what it can cause. -/
theorem work_retrying (scheduler : Scheduler) (retry : Retry) (pending : Int) :
    ({ scheduler with
      pendingRetries := pending
      idle := false
      retries := scheduler.retries ++ [retry] } : Scheduler).work =
        scheduler.work + scheduler.retryWork retry := by
  have added : ({ scheduler with
      pendingRetries := pending
      idle := false
      retries := scheduler.retries ++ [retry] } : Scheduler).work =
        (scheduler.workers.map scheduler.workerWork).sum +
          ((scheduler.queue.map scheduler.entryWork).sum +
            ((scheduler.retries ++ [retry]).map scheduler.retryWork).sum) := rfl
  rw [added, work, backlogWork, List.map_append, List.sum_append, List.map_singleton,
    List.sum_singleton]
  omega

/-- A retry that wakes leaves its token. -/
theorem work_woken {position : Nat} {retry : Retry}
    (found : scheduler.retries[position]? = some retry) (pending : Int) :
    ({ scheduler with
      queue := scheduler.queue ++ [some retry.taskId]
      pendingRetries := pending
      retries := scheduler.retries.eraseIdx position } : Scheduler).work + 1 =
        scheduler.work := by
  have erased := Potential.sum_eraseIdx scheduler.retryWork found
  have woken : ({ scheduler with
      queue := scheduler.queue ++ [some retry.taskId]
      pendingRetries := pending
      retries := scheduler.retries.eraseIdx position } : Scheduler).work =
        (scheduler.workers.map scheduler.workerWork).sum +
          (((scheduler.queue ++ [some retry.taskId]).map scheduler.entryWork).sum +
            ((scheduler.retries.eraseIdx position).map scheduler.retryWork).sum) := rfl
  have token : scheduler.retryWork retry = 1 + scheduler.entryWork (some retry.taskId) := rfl
  rw [woken, work, backlogWork, List.map_append, List.sum_append, List.map_singleton,
    List.sum_singleton]
  omega

/-- A pill is taken. -/
theorem work_pill (idle : scheduler.workers[worker]? = some .idle) {rest : List (Option TaskId)}
    (head : scheduler.queue = none :: rest) :
    1 + (({ scheduler with queue := rest } : Scheduler).place worker .exited).work ≤
      scheduler.work := by
  obtain ⟨popped, middle⟩ : ∃ popped, popped = ({ scheduler with queue := rest } : Scheduler) :=
    ⟨_, rfl⟩
  have before : popped.work + 1 = scheduler.work := by
    rw [middle]
    exact work_popped head scheduler.inflight
  have there : popped.workers[worker]? = some .idle := by rwa [middle]
  have eases : Eases popped (popped.place worker .exited) := .of_eq rfl rfl
  have left := work_moved_only eases .exited there rfl rfl rfl
  rw [← middle]
  simp only [workerWork] at left
  omega

/-- A token is worked off into less than it could cause. -/
theorem work_take (accounted : scheduler.Accounted)
    (idle : scheduler.workers[worker]? = some .idle) {taskId : TaskId}
    {rest : List (Option TaskId)} (head : scheduler.queue = some taskId :: rest)
    (registry : Registry) :
    1 + (scheduler.takeTask registry worker taskId rest).work ≤ scheduler.work := by
  obtain ⟨popped, middle⟩ : ∃ popped, popped = ({ scheduler with
    queue := rest
    inflight := scheduler.inflight + 1 } : Scheduler) := ⟨_, rfl⟩
  have before : popped.work + scheduler.tokenWork taskId = scheduler.work := by
    rw [middle]
    exact work_popped head _
  have least := scheduler.tokenWork_pos taskId
  have free : popped.workers[worker]? = some .idle := by rwa [middle]
  have nothing : popped.workerWork .idle = 0 := rfl
  have went := takeTask_cases registry worker taskId rest scheduler
  generalize scheduler.takeTask registry worker taskId rest = after at went ⊢
  cases went with
  | skipped skips =>
    rw [← middle]
    have left := work_leave free
    omega
  | raised index record error named known unskipped raised =>
    rw [← middle]
    have left := work_leave free
    omega
  | abandoned index record error named known unskipped =>
    rw [← middle]
    have there : popped.records[index]? = some record := by rwa [middle]
    have advanced := work_advance free there
      { record with state := .abandoned, result := none, error := error } rfl le_rfl .abandoning
      [{ record with state := .abandoned, result := none, error := error }.event]
    simp only [pointWork] at advanced
    omega
  | acquiring index record named known unskipped =>
    rw [← middle]
    have there : popped.records[index]? = some record := by rwa [middle]
    have advanced := work_advance free there record rfl le_rfl .acquiring []
    obtain ⟨holder, found, own⟩ := accounted.named taskId index named
    obtain rfl := Option.some.inj (known.symm.trans found)
    have names : popped.table record.spec.id = some index := by rwa [own, middle]
    have token : popped.tokenWork record.spec.id = scheduler.tokenWork taskId := by
      rw [own, middle]
      rfl
    simp only [pointWork, names, token, if_true] at advanced
    omega

/-- An attempt that begins uses up one of the attempts. -/
theorem work_leased (busy : scheduler.workers[worker]? = some (.busy index .acquiring))
    (known : scheduler.records[index]? = some record) (new : TaskRecord)
    (same : new.spec = record.spec) (more : new.attemptCount = record.attemptCount + 1)
    (lease : Lease) (attempt : Nat) (events : List StateEvent) :
    1 + (scheduler.advance worker index new (.starting lease attempt) events).work ≤
      scheduler.work := by
  have used : new.left = record.left - 1 := by
    simp only [TaskRecord.left, same, more]
    omega
  have eases : Eases scheduler
      (scheduler.advance worker index new (.starting lease attempt) events) :=
    .of_set rfl rfl known same (by omega)
  obtain ⟨bound, -⟩ := List.getElem?_eq_some_iff.mp known
  have there : (scheduler.advance worker index new (.starting lease attempt) events).records[
      index]? = some new := advance_record bound
  have table : (scheduler.advance worker index new (.starting lease attempt) events).table =
      scheduler.table := rfl
  have moved := work_moved_only eases (.busy index (.starting lease attempt)) busy rfl rfl rfl
  rw [workerWork_busy there, workerWork_busy known] at moved
  generalize scheduler.advance worker index new (.starting lease attempt) events = after
    at eases there table moved ⊢
  have token := eases.token record.spec.id
  have least := scheduler.tokenWork_pos record.spec.id
  simp only [pointWork, requeueWork, unwindWork, Option.isSome_some, if_true, same] at moved
  by_cases current : scheduler.table record.spec.id = some index
  · have before : scheduler.tokenWork record.spec.id = 8 + 9 * (record.left - 1) := by
      simp [tokenWork, current, leftAt_known known]
    have afterwards : after.tokenWork record.spec.id = 8 + 9 * (new.left - 1) := by
      simp [tokenWork, table, current, leftAt_known there]
    rw [if_pos current] at moved
    split at moved <;> omega
  · rw [if_neg current] at moved
    split at moved <;> omega

/-- What follows a sink that returned takes a step off. -/
theorem work_sinkReturned (busy : scheduler.workers[worker]? = some (.busy index point))
    (known : scheduler.records[index]? = some record)
    (went : scheduler.sinkReturned worker index record point = some after) :
    1 + after.work ≤ scheduler.work := by
  have weighs := workerWork_busy known point
  cases point with
  | abandoning =>
    cases went
    have left := work_leave busy
    simp only [pointWork] at weighs
    omega
  | announcing =>
    cases went
    have left := work_leave busy
    simp only [pointWork] at weighs
    omega
  | starting lease attempt =>
    cases went
    rw [place_eq known]
    have advanced := work_advance busy known record rfl le_rfl (.executing lease attempt) []
    simp only [pointWork] at weighs advanced
    omega
  | requeueing lease delay =>
    cases went
    have added := scheduler.work_retrying ⟨record.spec.id, delay⟩ (scheduler.pendingRetries + 1)
    have unwound := @work_unwind { scheduler with
      pendingRetries := scheduler.pendingRetries + 1
      idle := false
      retries := scheduler.retries ++ [⟨record.spec.id, delay⟩] } worker index record _ busy known
        lease
    have same : ({ scheduler with
        pendingRetries := scheduler.pendingRetries + 1
        idle := false
        retries := scheduler.retries ++ [⟨record.spec.id, delay⟩] } : Scheduler).workerWork
          (.busy index (.requeueing lease delay)) =
            scheduler.workerWork (.busy index (.requeueing lease delay)) := rfl
    simp only [pointWork] at weighs
    simp only [retryWork] at added
    omega
  | failing lease =>
    cases went
    have unwound := work_unwind busy known lease
    simp only [pointWork] at weighs
    omega
  | acquiring => cases went
  | executing lease attempt => cases went
  | quarantining lease reason => cases went
  | releasing lease => cases went

/-- What follows a sink that raised takes a step off. -/
theorem work_sinkRaised (busy : scheduler.workers[worker]? = some (.busy index point))
    (known : scheduler.records[index]? = some record)
    (went : scheduler.sinkRaised worker index point = some after) :
    1 + after.work ≤ scheduler.work := by
  have weighs := workerWork_busy known point
  cases point with
  | abandoning | announcing | starting lease attempt =>
    cases went
    have left := work_leave busy
    simp only [pointWork] at weighs
    omega
  | requeueing lease delay =>
    cases went
    have unwound := work_unwind busy known lease
    simp only [pointWork] at weighs
    omega
  | failing lease =>
    cases went
    have unwound := work_unwind busy known lease
    simp only [pointWork] at weighs
    omega
  | acquiring => cases went
  | executing lease attempt => cases went
  | quarantining lease reason => cases went
  | releasing lease => cases went

/-- What follows the target takes a step off. -/
theorem work_executed {config : SchedulerConfig} {registry : Registry} {lease : Lease}
    {attempt : Nat} {error : Option String} {outcome : Outcome}
    (busy : scheduler.workers[worker]? = some (.busy index (.executing lease attempt)))
    (known : scheduler.records[index]? = some record)
    (went : Ended config registry scheduler worker index (record.endAttempt attempt error) lease
      outcome after) : 1 + after.work ≤ scheduler.work := by
  have weighs := workerWork_busy known (.executing lease attempt)
  have kept : (record.endAttempt attempt error).left = record.left := by
    simp only [TaskRecord.left, TaskRecord.endAttempt_attemptCount]
    rfl
  simp only [pointWork] at weighs
  have least := requeueWork_pos scheduler record lease
  cases went with
  | succeeded value =>
    have advanced := work_advance busy known
      { record.endAttempt attempt error with
        state := .succeeded, result := some value, error := none }
      rfl (le_of_eq kept) (.releasing lease) []
    simp only [pointWork] at advanced
    omega
  | rejected message =>
    have advanced := work_advance busy known
      { record.endAttempt attempt error with
        state := .rejected, result := none, error := some message }
      rfl (le_of_eq kept) (.releasing lease) []
    simp only [pointWork] at advanced
    omega
  | blamed outcome reason wired blames online =>
    have advanced := work_advance busy known (record.endAttempt attempt error) rfl
      (le_of_eq kept) (.quarantining lease reason) []
    simp only [pointWork] at advanced
    omega
  | requeued outcome after fails excused went =>
    obtain ⟨bound, -⟩ := List.getElem?_eq_some_iff.mp known
    generalize middle : ({ scheduler with
      records := scheduler.records.set index (record.endAttempt attempt error) } : Scheduler) =
        ended at went
    have there : ended.records[index]? = some (record.endAttempt attempt error) := by
      simp [← middle, bound]
    have same : (record.endAttempt attempt error).spec = record.spec := rfl
    have eases : Eases scheduler ended :=
      .of_set (by rw [← middle]) (by rw [← middle]) known same (le_of_eq kept)
    have still := work_eased eases 0 (by simp [← middle]) (by rw [← middle]) (by rw [← middle])
    have busy' : ended.workers[worker]? = some (.busy index (.executing lease attempt)) := by
      rwa [← middle]
    have requeued := work_requeue busy' there went
    have weighs' := workerWork_busy there (.executing lease attempt)
    simp only [pointWork] at weighs'
    omega

end Scheduler

/-- A coroutine of the scheduler takes the step. -/
def SchedulerAction.resumes : SchedulerAction → Bool
  | submit _ _ | start | stop | stopped _ | others _ => false
  | _ => true

/-- The step is a lease timeout. -/
def SchedulerAction.expires : SchedulerAction → Bool
  | leaseTimeout _ _ => true
  | _ => false

/-- A sink or the quarantine raises in the step. -/
def SchedulerAction.raises : SchedulerAction → Bool
  | sinkRaised _ | quarantineRaised _ => true
  | _ => false

namespace SchedulerWorld

open Scheduler

/-- Nothing is submitted, and `stop` is not called. -/
def Unprompted (_ : SchedulerWorld) : SchedulerAction → Prop
  | .submit _ _ | .stop => False
  | _ => True

instance (world : SchedulerWorld) : ∀ action, Decidable (Unprompted world action)
  | .submit _ _ | .stop => inferInstanceAs (Decidable False)
  | .start | .stopped _ | .take _ | .leased _ _ | .leaseTimeout _ _ | .leaseError _
  | .sinkReturned _ | .sinkRaised _ | .executed _ _ _ | .quarantined _ _ | .quarantineRaised _
  | .released _ | .retryDue _ | .others _ => inferInstanceAs (Decidable True)

variable {config : SchedulerConfig} {world after : SchedulerWorld} {action : SchedulerAction}

/-- **Every step of a coroutine is one that could still be caused**; a lease timeout may put the
task back without using up an attempt. -/
theorem work_step (accounted : world.scheduler.Accounted) (unprompted : Unprompted world action)
    (taken : step config world action = some after) :
    action.resumes.toNat + after.scheduler.work ≤
      world.scheduler.work + 4 * action.expires.toNat := by
  cases step_effect taken with
  | submit spec correlationId => exact unprompted.elim
  | stop => exact unprompted.elim
  | start =>
    show 0 + (world.scheduler.start config).work ≤ world.scheduler.work
    simp only [Scheduler.start]
    split
    · rw [Nat.zero_add]
    · rw [Nat.zero_add]
      exact work_eased (.of_eq rfl rfl) config.policy.workers rfl rfl rfl
  | stopped call stopping =>
    show 0 + ({ world.scheduler with pool := [], stopping := stopping } : Scheduler).work ≤ _
    rw [Nat.zero_add]
    exact work_eased (.of_eq rfl rfl) 0 (by simp) rfl rfl
  | pill worker rest idle head =>
    exact work_pill idle head
  | take worker taskId rest idle head => exact work_take accounted idle head world.registry
  | leased worker token index record device attempts busy known free fresh length =>
    exact work_leased busy known { record with attempts := attempts, state := .running } rfl length
      ⟨device.id, token⟩ record.attemptCount _
  | leaseTimeout worker draw index record after busy known went =>
    show 1 + after.work ≤ world.scheduler.work + 4
    have requeued := work_requeue busy known went
    have weighs := workerWork_busy known .acquiring
    have least := world.scheduler.tokenWork_pos record.spec.id
    simp only [pointWork, requeueWork, unwindWork] at weighs requeued
    split at weighs <;> split at requeued <;> simp at requeued <;> omega
  | leaseError worker index record error busy known raised =>
    show 1 + (world.scheduler.leave worker).work ≤ world.scheduler.work
    have left := work_leave busy
    have weighs := workerWork_busy known .acquiring
    have least := world.scheduler.tokenWork_pos record.spec.id
    simp only [pointWork] at weighs
    split at weighs <;> omega
  | sinkReturned worker index point record after busy known went =>
    exact work_sinkReturned busy known went
  | sinkRaised worker index point record after busy known went =>
    exact work_sinkRaised busy known went
  | executed worker outcome draw index lease attempt record ended after busy known same went =>
    subst same
    exact work_executed busy known went
  | quarantined worker draw index lease reason record after busy known went =>
    show 1 + after.work ≤ world.scheduler.work
    have requeued := work_requeue busy known went
    have weighs := workerWork_busy known (.quarantining lease reason)
    simp only [pointWork] at weighs
    omega
  | quarantineRaised worker index lease reason record busy known =>
    show 1 + (world.scheduler.advance worker index record (.releasing lease) []).work ≤ _
    have advanced := work_advance busy known record rfl le_rfl (.releasing lease) []
    have weighs := workerWork_busy known (.quarantining lease reason)
    have least := requeueWork_pos world.scheduler record lease
    simp only [pointWork] at weighs advanced
    omega
  | releasedQuietly worker index lease record busy known pending =>
    show 1 + (world.scheduler.leave worker).work ≤ world.scheduler.work
    have left := work_leave busy
    have weighs := workerWork_busy known (.releasing lease)
    simp only [pointWork] at weighs
    omega
  | released worker index lease record busy known settled =>
    show 1 + (world.scheduler.advance worker index record .announcing [record.event]).work ≤ _
    have advanced := work_advance busy known record rfl le_rfl .announcing [record.event]
    have weighs := workerWork_busy known (.releasing lease)
    simp only [pointWork] at weighs advanced
    omega
  | retryDue position retry found =>
    have woken := work_woken found (world.scheduler.pendingRetries - 1)
    simp only [withScheduler, work_settleIdle, SchedulerAction.resumes, SchedulerAction.expires,
      Bool.toNat_true, Bool.toNat_false]
    omega
  | others registry => simp [SchedulerAction.resumes, SchedulerAction.expires]

/-- Runs that go on from a reachable state stay accounted for. -/
theorem accounted_along {allowed other : SchedulerWorld → SchedulerAction → Prop}
    (reached : Transition.Run (step config) allowed {} world)
    (run : Transition.Run (step config) other world after) : after.scheduler.Accounted := by
  apply run.invariant (fun world => world.scheduler.Accounted)
  · exact SchedulerWorld.accounted reached
  · intro _ _ _ _ accounted _ taken
    exact accounted_step accounted taken

/-- **The scheduler runs out of work.** In every run from a reachable state in which nothing is
submitted, `stop` is not called and no worker is cancelled, whatever targets, sinks, the monitor and
the fleet do otherwise: its coroutines take at most `work` steps and four for each lease timeout. -/
theorem work_bounded {allowed : SchedulerWorld → SchedulerAction → Prop} {past : List Taken}
    (reached : Transition.Run (step config) allowed {} world)
    (history : Transition.History (step config) Unprompted world past after) :
    past.countP (fun taken => taken.action.resumes) + after.scheduler.work ≤
      world.scheduler.work + 4 * past.countP fun taken => taken.action.expires := by
  rw [← Potential.sum_price]
  apply Potential.amortised (fun world : SchedulerWorld => world.scheduler.work)
    (fun taken => taken.action.resumes) (fun taken => 4 * taken.action.expires.toNat) _ history
  intro state action later run unprompted taken
  exact work_step (accounted_along reached run) unprompted taken

end SchedulerWorld

namespace Bench

/-- A task of one attempt waits in the queue. -/
def oneQueued : List SchedulerAction := [.others registry, .start, .submit spec "first"]

/-- The task first gets no device in time, and then its attempt fails. -/
def lateFailure : List SchedulerAction :=
  [.take 0, .leaseTimeout 0 0, .sinkReturned 0, .retryDue 0, .take 0, .leased 0 0, .sinkReturned 0,
    .executed 0 (.retryable "no such element" false) 0, .sinkReturned 0, .released 0,
    .sinkReturned 0]

end Bench

namespace SchedulerWorld

open Scheduler

variable {config : SchedulerConfig} {world after : SchedulerWorld} {action : SchedulerAction}

/-- Eleven steps with one lease timeout, of a task that could cause eight. -/
theorem work_bounded_late : ∃ (world after : SchedulerWorld) (past : List Taken),
    world.scheduler.work = 8 ∧ past.countP (fun taken => taken.action.resumes) = 11 ∧
      past.countP (fun taken => taken.action.resumes) + after.scheduler.work ≤
        world.scheduler.work + 4 * past.countP fun taken => taken.action.expires := by
  have passed : ((Transition.execute (Transition.guarded (step Bench.config) fun _ _ => True) {}
      Bench.oneQueued).any fun world => decide (world.scheduler.work = 8) &&
        (Transition.trace (Transition.guarded (step Bench.config) Unprompted) [] world
          Bench.lateFailure).any fun reached =>
            decide (reached.1.countP (fun taken => taken.action.resumes) = 11)) = true := by
    decide +kernel
  obtain ⟨world, reached, shown⟩ := Transition.reaches passed
  obtain ⟨eight, shown⟩ := Bool.and_eq_true_iff.mp shown
  obtain ⟨past, after, history, shown⟩ := Transition.traces shown
  exact ⟨world, after, past, of_decide_eq_true eight, of_decide_eq_true shown,
    work_bounded reached history⟩

/-- A worker waits for a device that nobody has yet given back. -/
def Lacks (world : SchedulerWorld) (index : Nat) (state : Worker) : Prop :=
  state = .busy index .acquiring ∧ ∃ record, world.scheduler.records[index]? = some record ∧
    world.registry.findFree record.spec.selector = .ok none

/-- Nothing is left to do but to wait for devices or for a client. -/
structure Waiting (world : SchedulerWorld) : Prop where
  /-- A worker that is inside a call lacks a device. -/
  lacks : ∀ (worker index : Nat) (point : Point),
    world.scheduler.workers[worker]? = some (.busy index point) →
    world.Lacks index (.busy index point)
  /-- A worker that is free finds nothing in the queue. -/
  empty : ∀ worker : Nat, world.scheduler.workers[worker]? = some .idle →
    world.scheduler.queue = []
  /-- No retry sleeps. -/
  awake : world.scheduler.retries = []

/-- A step of a coroutine, in which no lease times out and nothing raises. -/
def Advances (_ : SchedulerWorld) (action : SchedulerAction) : Prop :=
  action.resumes = true ∧ action.expires = false ∧ action.raises = false

/-- No coroutine can go on. -/
def AtRest (config : SchedulerConfig) (world : SchedulerWorld) : Prop :=
  ∀ action, Advances world action → step config world action = none

/-- At rest no coroutine can take a step. -/
theorem AtRest.stuck (rest : AtRest config world) (action : SchedulerAction)
    (resumes : action.resumes = true) (unexpired : action.expires = false)
    (calm : action.raises = false) : ¬(step config world action).isSome = true := by
  intro enabled
  rw [rest action ⟨resumes, unexpired, calm⟩] at enabled
  cases enabled

/-- **At rest a worker inside a call waits for a device.** -/
theorem AtRest.lacks (rest : AtRest config world) {worker index : Nat} {point : Point}
    {record : TaskRecord} (at_ : world.at? worker = some (index, point, record)) :
    point = .acquiring ∧ world.registry.findFree record.spec.selector = .ok none := by
  have returned : ∀ after : Scheduler,
      world.scheduler.sinkReturned worker index record point ≠ some after := by
    intro after went
    apply rest.stuck (.sinkReturned worker) rfl rfl rfl
    simp only [step, at_, went]
    rfl
  cases point with
  | abandoning => exact absurd rfl (returned _)
  | announcing => exact absurd rfl (returned _)
  | starting lease attempt => exact absurd rfl (returned _)
  | requeueing lease delay => exact absurd rfl (returned _)
  | failing lease => exact absurd rfl (returned _)
  | executing lease attempt =>
    have stuck := rest.stuck (.executed worker .timeout 0) rfl rfl rfl
    exact absurd (by simp [step, at_]) stuck
  | quarantining lease reason =>
    have stuck := rest.stuck (.quarantined worker 0) rfl rfl rfl
    exact absurd (by simp [step, at_]) stuck
  | releasing lease =>
    have stuck := rest.stuck (.released worker) rfl rfl rfl
    exact absurd (by simp [step, at_]) stuck
  | acquiring =>
    refine ⟨rfl, ?_⟩
    cases free : world.registry.findFree record.spec.selector with
    | error error =>
      have stuck := rest.stuck (.leaseError worker) rfl rfl rfl
      exact absurd (by simp [step, at_, free]) stuck
    | ok device =>
      cases device with
      | none => rfl
      | some device =>
        obtain ⟨token, fresh⟩ := Infinite.exists_notMem_finset world.registry.issued.toFinset
        rw [List.mem_toFinset] at fresh
        have stuck := rest.stuck (.leased worker token) rfl rfl rfl
        exact absurd (by simp [step, at_, free, fresh]) stuck

/-- **A scheduler at rest waits.** -/
theorem AtRest.waiting (rest : AtRest config world) (accounted : world.scheduler.Accounted) :
    world.Waiting := by
  refine ⟨fun worker index point busy => ?_, fun worker idle => ?_, ?_⟩
  · obtain ⟨record, known⟩ : ∃ record, world.scheduler.records[index]? = some record :=
      ⟨_, List.getElem?_eq_getElem
        (accounted.inRange index point (List.mem_of_getElem? busy))⟩
    obtain ⟨rfl, free⟩ := rest.lacks (at?_eq_some.mpr ⟨busy, known⟩)
    exact ⟨rfl, record, known, free⟩
  · cases queue : world.scheduler.queue with
    | nil => rfl
    | cons head rest' =>
      have stuck := rest.stuck (.take worker) rfl rfl rfl
      refine absurd ?_ stuck
      cases head <;> simp [step, idle, queue]
  · cases retries : world.scheduler.retries with
    | nil => rfl
    | cons retry others =>
      have stuck := rest.stuck (.retryDue 0) rfl rfl rfl
      exact absurd (by simp [step, retries]) stuck

/-- An unended record of a scheduler at rest has a worker that lacks a device, or waits in the
queue for a worker. -/
theorem AtRest.unended (rest : AtRest config world) (accounted : world.scheduler.Accounted)
    (carried : world.scheduler.Carried) {index : Nat} {record : TaskRecord}
    (known : world.scheduler.records[index]? = some record)
    (unended : record.state.terminal = false) :
    (∃ worker : Nat, world.scheduler.workers[worker]? = some (.busy index .acquiring) ∧
      world.registry.findFree record.spec.selector = .ok none) ∨
    (some record.spec.id ∈ world.scheduler.queue ∧
      ∀ worker : Nat, world.scheduler.workers[worker]? ≠ some .idle) := by
  have waiting := rest.waiting accounted
  rcases carried.hasCarrier known unended with ⟨worker, point, busy⟩ | ⟨-, queued | sleeping⟩
  · obtain ⟨same, holder, found, free⟩ := waiting.lacks worker index point busy
    obtain rfl := Option.some.inj (known.symm.trans found)
    exact .inl ⟨worker, by rw [busy, same], free⟩
  · refine .inr ⟨queued, fun worker idle => ?_⟩
    rw [waiting.empty worker idle] at queued
    cases queued
  · obtain ⟨retry, member, -⟩ := sleeping
    rw [waiting.awake] at member
    cases member

/-- A step of a coroutine keeps the account. -/
theorem advances_used (accounted : world.scheduler.Accounted) (advances : Advances world action)
    (taken : step config world action = some after) :
    1 + after.scheduler.work ≤ world.scheduler.work := by
  obtain ⟨resumes, unexpired, -⟩ := advances
  have unprompted : Unprompted world action := by
    cases action with
    | submit spec correlationId => cases resumes
    | stop => cases resumes
    | _ => trivial
  simpa [resumes, unexpired] using work_step accounted unprompted taken

/-- **Accepted tasks end unless devices are lacking.** With distinct ids, tractable specifications
and nothing that raises, from every reachable state: the coroutines can take at most `work` steps
without a lease timeout and do come to rest, and at rest each record has ended, or its worker
waits in `acquire` while no device that matches is free, or its id is queued while no worker is
free. -/
theorem tasks_settle
    (reached : Transition.Run (step config)
      (fun world action => Distinct world action ∧ Tractable config action) {} world) :
    (∀ (past : List Taken) (after : SchedulerWorld),
      Transition.History (step config) Advances world past after →
      past.length ≤ world.scheduler.work ∧
        (AtRest config after → ∀ (index : Nat) (record : TaskRecord),
          after.scheduler.records[index]? = some record →
          record.state.terminal = true ∨
          (∃ worker : Nat, after.scheduler.workers[worker]? = some (.busy index .acquiring) ∧
            after.registry.findFree record.spec.selector = .ok none) ∨
          (some record.spec.id ∈ after.scheduler.queue ∧
            ∀ worker : Nat, after.scheduler.workers[worker]? ≠ some .idle))) ∧
    ∃ (past : List Taken) (after : SchedulerWorld),
      Transition.History (step config) Advances world past after ∧ AtRest config after := by
  have used : ∀ {state : SchedulerWorld} {action : SchedulerAction} {later : SchedulerWorld},
      state.scheduler.Accounted → Advances state action → step config state action = some later →
      later.scheduler.work < state.scheduler.work := by
    intro state action later accounted advances taken
    have less := advances_used accounted advances taken
    omega
  refine ⟨fun past after history => ⟨?_, fun rest index record known => ?_⟩, ?_⟩
  · have free : (past.map fun _ => 0).sum = 0 := by simp
    have bounded := Potential.amortised (fun world : SchedulerWorld => world.scheduler.work)
      (fun _ => true) (fun _ => 0) (fun {state action later} run advances taken => by
        simpa using advances_used (accounted_along reached run) advances taken) history
    rw [List.countP_true, free] at bounded
    omega
  · have further : Transition.Run (step config)
        (fun world action => Distinct world action ∧ Tractable config action) world after := by
      apply history.run.mono
      rintro state action - ⟨resumes, -, calm⟩
      cases action with
      | submit spec correlationId => cases resumes
      | sinkRaised worker => cases calm
      | quarantineRaised worker => cases calm
      | _ => exact ⟨trivial, trivial⟩
    have run := reached.trans further
    cases ended : record.state.terminal with
    | true => exact .inl rfl
    | false =>
      exact .inr (rest.unended (SchedulerWorld.accounted run) (carried_run (careful_run run).1)
        known ended)
  · exact Potential.comes_to_rest (fun world : SchedulerWorld => world.scheduler.work)
      (fun world => world.scheduler.Accounted)
      (fun accounted _ taken => accounted_step accounted taken) used
      (SchedulerWorld.accounted reached)

/-- A queued task comes to rest. -/
theorem tasks_settle_one : ∃ (world after : SchedulerWorld) (past : List Taken),
    world.scheduler.queue = [some "demo"] ∧
      Transition.History (step Bench.config) Advances world past after ∧
      AtRest Bench.config after := by
  have passed : (Transition.execute (Transition.guarded (step Bench.config)
      fun world action => Distinct world action ∧ Tractable Bench.config action) {}
      Bench.oneQueued).any (fun world => decide (world.scheduler.queue = [some "demo"])) =
        true := by
    decide +kernel
  obtain ⟨world, reached, shown⟩ := Transition.reaches passed
  obtain ⟨past, after, history, rest⟩ := (tasks_settle reached).2
  exact ⟨world, after, past, of_decide_eq_true shown, history, rest⟩

end SchedulerWorld

end DeviceOrchestrator
