import DeviceOrchestrator.Verif.Resubmission

/-!
# When a quiet scheduler knows that it is quiet

`drain` waits for `_idle`, and `_idle` is set again only where a worker leaves its call or a
retry wakes, and only if the queue is empty there. The queue also holds the poison pills of
`stop`, so the last worker to leave can find one and go on without setting it. The invariant is
that every still scheduler is idle, and a step breaks it exactly if a worker leaves a scheduler
that is still but for its pills.
-/
namespace DeviceOrchestrator

namespace Scheduler

/-- No task id is queued, no worker is in a call and no retry sleeps. -/
def Still (scheduler : Scheduler) : Prop :=
  (∀ token ∈ scheduler.queue, token = none) ∧
    (∀ worker ∈ scheduler.workers, worker.inCall = false) ∧ scheduler.retries = []

instance (scheduler : Scheduler) : Decidable scheduler.Still :=
  inferInstanceAs (Decidable (_ ∧ _ ∧ _))

/-- A worker that takes this id is back at the queue without an await: the id names nothing, or a
record that is skipped, or one whose selector cannot be evaluated. -/
def passesOver (registry : Registry) (scheduler : Scheduler) (taskId : TaskId) : Bool :=
  ((scheduler.table taskId).bind fun index => scheduler.records[index]?).all fun record =>
    record.state = .succeeded ∨ record.state = .rejected ∨
      (registry.couldEverMatch record.spec.selector).toOption.isNone

/-- A worker in a call keeps its scheduler from being still. -/
theorem not_still {scheduler : Scheduler} {worker index : Nat} {point : Point}
    (busy : scheduler.workers[worker]? = some (.busy index point)) : ¬scheduler.Still := by
  intro still
  have free := still.2.1 _ (List.mem_of_getElem? busy)
  cases free

/-- A suspended worker is where it was suspended. -/
theorem place_worker {scheduler : Scheduler} {worker : Nat} {state : Worker}
    (inside : worker < scheduler.workers.length) :
    (scheduler.place worker state).workers[worker]? = some state := by
  simp [place, inside]

/-- **What a leaving worker notices.** If nobody else works, it sets `_idle` exactly if the queue
is empty. -/
theorem leave_idle {scheduler : Scheduler} {worker : Nat} (clear : scheduler.idle = false)
    (accounted : (scheduler.leave worker).Accounted) (still : (scheduler.leave worker).Still) :
    (scheduler.leave worker).idle = true ↔ scheduler.queue = [] := by
  have workless : (scheduler.leave worker).workers.countP Worker.inCall = 0 :=
    List.countP_eq_zero.mpr fun other member => by simp [still.2.1 other member]
  have inflight := accounted.inflight
  have pending := accounted.pendingRetries
  rw [still.2.2, List.length_nil] at pending
  rw [workless] at inflight
  have counted : scheduler.inflight - 1 = 0 := by
    unfold leave settleIdle at inflight
    split at inflight <;> simpa [place] using inflight
  have awake : scheduler.pendingRetries = 0 := by
    unfold leave settleIdle at pending
    split at pending <;> simpa [place] using pending
  unfold leave settleIdle
  split
  · rename_i settled
    exact ⟨fun _ => List.isEmpty_iff.mp settled.1, fun _ => rfl⟩
  · rename_i unsettled
    have full : scheduler.queue ≠ [] := fun empty =>
      unsettled ⟨by simp [place, empty], counted, awake⟩
    simp [place, clear, full]

end Scheduler

/-- The awaits after which a call ends once the sink has returned. -/
def Point.endsOnReturn : Point → Bool
  | abandoning | announcing | failing none => true
  | _ => false

/-- The awaits after which a call ends once the sink has raised. -/
def Point.endsOnRaise : Point → Bool
  | abandoning | announcing | starting _ _ | requeueing none _ | failing none => true
  | _ => false

namespace SchedulerWorld

open Scheduler

/-- The worker whose call ends in a step, and the queue it leaves. -/
def ending (world : SchedulerWorld) : SchedulerAction → Option (Nat × List (Option TaskId))
  | .take worker =>
    match world.scheduler.workers[worker]?, world.scheduler.queue with
    | some .idle, some taskId :: rest =>
      if world.scheduler.passesOver world.registry taskId then some (worker, rest) else none
    | _, _ => none
  | .leaseTimeout worker _ =>
    (world.at? worker).bind fun held =>
      if held.2.2.attemptCount < held.2.2.spec.maxAttempts ∧ 1024 ≤ held.2.2.attemptCount then
        some (worker, world.scheduler.queue)
      else none
  | .leaseError worker => some (worker, world.scheduler.queue)
  | .sinkReturned worker =>
    (world.at? worker).bind fun held =>
      if held.2.1.endsOnReturn then some (worker, world.scheduler.queue) else none
  | .sinkRaised worker =>
    (world.at? worker).bind fun held =>
      if held.2.1.endsOnRaise then some (worker, world.scheduler.queue) else none
  | .released worker =>
    (world.at? worker).bind fun held =>
      if held.2.2.state = .pending then some (worker, world.scheduler.queue) else none
  | _ => none

/-- **A worker does not leave pills behind.** If its call is the last one, no id is left in the
queue and no retry sleeps, then nothing is left in the queue. -/
def LeavesNoPill (world : SchedulerWorld) (action : SchedulerAction) : Prop :=
  ∀ ended ∈ world.ending action, (∀ token ∈ ended.2, token = none) →
    (∀ worker ∈ world.scheduler.workers.set ended.1 .idle, worker.inCall = false) →
    world.scheduler.retries = [] → ended.2 = []

instance (world : SchedulerWorld) (action : SchedulerAction) :
    Decidable (world.LeavesNoPill action) :=
  inferInstanceAs (Decidable (∀ ended ∈ world.ending action, _))

variable {config : SchedulerConfig} {world after : SchedulerWorld} {action : SchedulerAction}

/-- What a step does to a scheduler that may be still afterwards: a worker leaves its call, or the
scheduler was still before and `_idle` stays as it was. -/
inductive Rests (world : SchedulerWorld) (action : SchedulerAction) (after : Scheduler) : Prop
  /-- A worker leaves its call. -/
  | leaves (worker : Nat) (middle : Scheduler) :
      world.ending action = some (worker, middle.queue) → middle.idle = false →
      middle.workers = world.scheduler.workers → middle.retries = world.scheduler.retries →
      after = middle.leave worker → Rests world action after
  /-- No call ends. -/
  | stays : world.ending action = none →
      (after.Still → world.scheduler.Still ∧ after.idle = world.scheduler.idle) →
      Rests world action after

/-- A step that leaves a worker in a call leaves no still scheduler. -/
theorem Rests.of_busy {after : Scheduler} {worker index : Nat} {point : Point}
    (none : world.ending action = none)
    (busy : after.workers[worker]? = some (.busy index point)) : Rests world action after :=
  .stays none fun still => absurd still (not_still busy)

/-- `_requeue` leaves the call only where its backoff overflows without a lease. -/
theorem requeue_leaves {scheduler after : Scheduler} {worker index : Nat} {record : TaskRecord}
    {lease : Option Lease} (inside : worker < scheduler.workers.length)
    (went : Requeue scheduler worker index record lease after) :
    (lease = none ∧ (record.attemptCount < record.spec.maxAttempts ∧
        1024 ≤ record.attemptCount) ∧ after = scheduler.leave worker) ∨
      ((lease = none → ¬(record.attemptCount < record.spec.maxAttempts ∧
        1024 ≤ record.attemptCount)) ∧
        ∃ point, after.workers[worker]? = some (.busy index point)) := by
  cases went with
  | exhausted error spent => exact .inr ⟨fun _ => by omega, _, advance_worker inside⟩
  | delayed delay left small => exact .inr ⟨fun _ => by omega, _, advance_worker inside⟩
  | overflow left large =>
    cases lease with
    | none => exact .inl ⟨rfl, ⟨left, large⟩, rfl⟩
    | some lease => exact .inr ⟨nofun, .releasing lease, by simp [unwind, place, inside]⟩

/-- A token that is passed over leaves the worker at the queue. -/
theorem takeTask_passed {registry : Registry} {scheduler : Scheduler} {worker : Nat}
    {taskId : TaskId} {rest : List (Option TaskId)}
    (passed : scheduler.passesOver registry taskId = true) :
    scheduler.takeTask registry worker taskId rest =
      ({ scheduler with
        queue := rest
        inflight := scheduler.inflight + 1 } : Scheduler).leave worker := by
  unfold takeTask
  cases named : scheduler.table taskId with
  | none => simp [named]
  | some index =>
    cases known : scheduler.records[index]? with
    | none => simp [named, known]
    | some record =>
      simp only [passesOver, named, known, Option.bind_some, Option.all_some,
        decide_eq_true_eq] at passed
      by_cases skip : record.state = .succeeded ∨ record.state = .rejected
      · simp [named, known, skip]
      · cases answer : registry.couldEverMatch record.spec.selector with
        | error raised => simp [named, known, skip, runOnce, answer]
        | ok matched =>
          rw [← or_assoc] at passed
          rcases passed with skips | raises
          · exact absurd skips skip
          · simp [answer, Except.toOption] at raises

/-- A token that is not passed over keeps the worker in its call. -/
theorem takeTask_entered {registry : Registry} {scheduler : Scheduler} {worker : Nat}
    {taskId : TaskId} {rest : List (Option TaskId)}
    (inside : worker < scheduler.workers.length)
    (entered : scheduler.passesOver registry taskId = false) :
    ∃ index point, (scheduler.takeTask registry worker taskId rest).workers[worker]? =
      some (.busy index point) := by
  have went := takeTask_cases registry worker taskId rest scheduler
  obtain ⟨record, held, takes⟩ : ∃ record,
      ((scheduler.table taskId).bind fun index => scheduler.records[index]?) = some record ∧
        ¬(record.state = .succeeded ∨ record.state = .rejected ∨
          (registry.couldEverMatch record.spec.selector).toOption.isNone) := by
    unfold passesOver at entered
    cases held : (scheduler.table taskId).bind fun index => scheduler.records[index]? with
    | none => simp [held] at entered
    | some record => exact ⟨record, rfl, by simpa [held] using entered⟩
  obtain ⟨index, named, known⟩ := Option.bind_eq_some_iff.mp held
  rw [← or_assoc, not_or] at takes
  generalize scheduler.takeTask registry worker taskId rest = after at went ⊢
  cases went with
  | skipped skips => exact absurd (skips index record named known) takes.1
  | raised other record' error named' known' unskipped raised =>
    obtain rfl := Option.some.inj (named.symm.trans named')
    obtain rfl := Option.some.inj (known.symm.trans known')
    simp [raised, Except.toOption] at takes
  | abandoned other record' error named' known' unskipped =>
    exact ⟨other, .abandoning, by simp [advance, inside]⟩
  | acquiring other record' named' known' unskipped =>
    exact ⟨other, .acquiring, by simp [advance, inside]⟩

/-- A worker that took a token rests the scheduler exactly where it passes the token over. -/
theorem rests_take (accounted : world.scheduler.Accounted) {worker : Nat} {taskId : TaskId}
    {rest : List (Option TaskId)} (idle : world.scheduler.workers[worker]? = some .idle)
    (head : world.scheduler.queue = some taskId :: rest) :
    Rests world (.take worker) (world.scheduler.takeTask world.registry worker taskId rest) := by
  obtain ⟨inside, -⟩ := List.getElem?_eq_some_iff.mp idle
  have clear : world.scheduler.idle = false := by
    by_contra set
    have empty := (accounted.quiet (by simpa using set)).2.2 taskId
    exact empty (by simp [head])
  cases passed : world.scheduler.passesOver world.registry taskId with
  | true =>
    refine .leaves worker { world.scheduler with
      queue := rest
      inflight := world.scheduler.inflight + 1 } ?_ clear rfl rfl (takeTask_passed passed)
    simp [ending, idle, head, passed]
  | false =>
    obtain ⟨index, point, busy⟩ := takeTask_entered inside passed
    exact .of_busy (by simp [ending, idle, head, passed]) busy

/-- What follows a sink that returned. -/
theorem rests_sinkReturned (accounted : world.scheduler.Accounted) {worker index : Nat}
    {point : Point} {record : TaskRecord} {after : Scheduler}
    (busy : world.scheduler.workers[worker]? = some (.busy index point))
    (known : world.scheduler.records[index]? = some record)
    (went : world.scheduler.sinkReturned worker index record point = some after) :
    Rests world (.sinkReturned worker) after := by
  obtain ⟨inside, -⟩ := List.getElem?_eq_some_iff.mp busy
  have here := at?_eq_some.mpr ⟨busy, known⟩
  have clear := accounted.not_idle busy
  have leaves : point.endsOnReturn = true →
      Rests world (.sinkReturned worker) (world.scheduler.leave worker) := fun ends =>
    .leaves worker world.scheduler (by simp [ending, here, ends]) clear rfl rfl rfl
  have stays : point.endsOnReturn = false → world.ending (.sinkReturned worker) = none :=
    fun goes => by simp [ending, here, goes]
  cases point with
  | abandoning => cases went; exact leaves rfl
  | announcing => cases went; exact leaves rfl
  | starting lease attempt =>
    cases went
    exact .of_busy (stays rfl) (place_worker inside)
  | failing lease =>
    cases went
    cases lease with
    | none => exact leaves rfl
    | some lease => exact .of_busy (stays rfl) (place_worker inside)
  | requeueing lease delay =>
    cases went
    refine .stays (stays rfl) fun still => ?_
    have asleep := still.2.2
    cases lease <;> simp [unwind, place] at asleep
  | acquiring => cases went
  | executing lease attempt => cases went
  | quarantining lease reason => cases went
  | releasing lease => cases went

/-- What follows a sink that raised. -/
theorem rests_sinkRaised (accounted : world.scheduler.Accounted) {worker index : Nat}
    {point : Point} {record : TaskRecord} {after : Scheduler}
    (busy : world.scheduler.workers[worker]? = some (.busy index point))
    (known : world.scheduler.records[index]? = some record)
    (went : world.scheduler.sinkRaised worker index point = some after) :
    Rests world (.sinkRaised worker) after := by
  obtain ⟨inside, -⟩ := List.getElem?_eq_some_iff.mp busy
  have here := at?_eq_some.mpr ⟨busy, known⟩
  have clear := accounted.not_idle busy
  have leaves : point.endsOnRaise = true →
      Rests world (.sinkRaised worker) (world.scheduler.leave worker) := fun ends =>
    .leaves worker world.scheduler (by simp [ending, here, ends]) clear rfl rfl rfl
  have held : ∀ lease : Lease, point.endsOnRaise = false →
      Rests world (.sinkRaised worker) (world.scheduler.unwind worker index (some lease)) :=
    fun lease goes => .of_busy (by simp [ending, here, goes]) (place_worker inside)
  cases point with
  | abandoning => cases went; exact leaves rfl
  | announcing => cases went; exact leaves rfl
  | starting lease attempt => cases went; exact leaves rfl
  | failing lease =>
    cases went
    cases lease with
    | none => exact leaves rfl
    | some lease => exact held lease rfl
  | requeueing lease delay =>
    cases went
    cases lease with
    | none => exact leaves rfl
    | some lease => exact held lease rfl
  | acquiring => cases went
  | executing lease attempt => cases went
  | quarantining lease reason => cases went
  | releasing lease => cases went

/-- **Every step rests the scheduler in one of the two ways.** -/
theorem rests_step (accounted : world.scheduler.Accounted)
    (taken : step config world action = some after) : Rests world action after.scheduler := by
  cases step_effect taken with
  | submit spec correlationId =>
    refine .stays rfl ?_
    simp only [withScheduler, Scheduler.submit]
    split
    · intro still
      have queued := still.1 (some spec.id) (by simp)
      cases queued
    · exact fun still => ⟨still, rfl⟩
  | start =>
    refine .stays rfl ?_
    simp only [withScheduler, Scheduler.start]
    split
    · exact fun still => ⟨still, rfl⟩
    · rintro ⟨tasks, workers, retries⟩
      exact ⟨⟨tasks, fun worker member => workers worker (List.mem_append_left _ member),
        retries⟩, rfl⟩
  | stop =>
    refine .stays rfl ?_
    simp only [withScheduler, Scheduler.stop]
    split
    · rintro ⟨tasks, workers, retries⟩
      exact ⟨⟨fun token member => tasks token (List.mem_append_left _ member), workers,
        retries⟩, rfl⟩
    · exact fun still => ⟨still, rfl⟩
  | stopped call stopping => exact .stays rfl fun still => ⟨still, rfl⟩
  | pill worker rest idle head =>
    refine .stays (by simp [ending, idle, head]) ?_
    rintro ⟨tasks, workers, retries⟩
    refine ⟨⟨?_, ?_, retries⟩, rfl⟩
    · rw [head]
      simpa [withScheduler, place] using tasks
    · intro state member
      obtain ⟨slot, bound, rfl⟩ := List.mem_iff_getElem.mp member
      by_cases own : slot = worker
      · subst own
        rw [List.getElem?_eq_getElem bound] at idle
        rw [Option.some.inj idle]
        rfl
      · refine workers _ (List.mem_of_getElem? (i := slot) ?_)
        simp [withScheduler, place, Ne.symm own, bound]
  | take worker taskId rest idle head => exact rests_take accounted idle head
  | leased worker token index record device attempts busy known free fresh length =>
    obtain ⟨inside, -⟩ := List.getElem?_eq_some_iff.mp busy
    exact .of_busy rfl (advance_worker inside)
  | leaseTimeout worker draw index record after busy known went =>
    obtain ⟨inside, -⟩ := List.getElem?_eq_some_iff.mp busy
    have here := at?_eq_some.mpr ⟨busy, known⟩
    rcases requeue_leaves inside went with ⟨-, overflows, rfl⟩ | ⟨computed, point, stays⟩
    · exact .leaves worker world.scheduler (by simp [ending, here, overflows])
        (accounted.not_idle busy) rfl rfl rfl
    · exact .of_busy (by simp [ending, here, computed rfl]) stays
  | leaseError worker index record error busy known raised =>
    exact .leaves worker world.scheduler rfl (accounted.not_idle busy) rfl rfl rfl
  | sinkReturned worker index point record after busy known went =>
    exact rests_sinkReturned accounted busy known went
  | sinkRaised worker index point record after busy known went =>
    exact rests_sinkRaised accounted busy known went
  | executed worker outcome draw index lease attempt record ended after busy known same went =>
    obtain ⟨inside, -⟩ := List.getElem?_eq_some_iff.mp busy
    cases went with
    | succeeded value => exact .of_busy rfl (advance_worker inside)
    | rejected message => exact .of_busy rfl (advance_worker inside)
    | blamed outcome reason wired blames online => exact .of_busy rfl (advance_worker inside)
    | requeued outcome after fails excused went =>
      rcases requeue_leaves (by exact inside) went with ⟨impossible, -⟩ | ⟨-, point, stays⟩
      · cases impossible
      · exact .of_busy rfl stays
  | quarantined worker draw index lease reason record after busy known went =>
    obtain ⟨inside, -⟩ := List.getElem?_eq_some_iff.mp busy
    rcases requeue_leaves inside went with ⟨impossible, -⟩ | ⟨-, point, stays⟩
    · cases impossible
    · exact .of_busy rfl stays
  | quarantineRaised worker index lease reason record busy known =>
    obtain ⟨inside, -⟩ := List.getElem?_eq_some_iff.mp busy
    exact .of_busy rfl (advance_worker inside)
  | releasedQuietly worker index lease record busy known pending =>
    have here := at?_eq_some.mpr ⟨busy, known⟩
    exact .leaves worker world.scheduler (by simp [ending, here, pending])
      (accounted.not_idle busy) rfl rfl rfl
  | released worker index lease record busy known settled =>
    obtain ⟨inside, -⟩ := List.getElem?_eq_some_iff.mp busy
    have here := at?_eq_some.mpr ⟨busy, known⟩
    exact .of_busy (by simp [ending, here, settled]) (advance_worker inside)
  | retryDue position retry found =>
    refine .stays rfl fun still => ?_
    have queued := still.1 (some retry.taskId) (by simp [withScheduler])
    cases queued
  | others registry => exact .stays rfl fun still => ⟨still, rfl⟩

/-- **A step keeps still schedulers idle** exactly if it leaves no pill behind. -/
theorem still_step (accounted : world.scheduler.Accounted)
    (known : world.scheduler.Still → world.scheduler.idle = true)
    (taken : step config world action = some after) :
    (after.scheduler.Still → after.scheduler.idle = true) ↔ world.LeavesNoPill action := by
  have kept := accounted_step accounted taken
  cases rests_step accounted taken with
  | stays none same =>
    refine ⟨fun _ ended member => ?_, fun _ still => ?_⟩
    · rw [none] at member
      cases member
    · obtain ⟨before, idle⟩ := same still
      exact idle.trans (known before)
  | leaves worker middle ends clear workers retries left =>
    have still : after.scheduler.Still ↔ (∀ token ∈ middle.queue, token = none) ∧
        (∀ state ∈ world.scheduler.workers.set worker .idle, state.inCall = false) ∧
        world.scheduler.retries = [] := by
      simp [left, Still, workers, retries]
    have notices : after.scheduler.Still →
        (after.scheduler.idle = true ↔ middle.queue = []) := by
      rw [left] at kept ⊢
      exact leave_idle clear kept
    constructor
    · intro idle ended member tasks free awake
      obtain rfl := Option.some.inj (ends.symm.trans member)
      have rests := still.mpr ⟨tasks, free, awake⟩
      exact (notices rests).mp (idle rests)
    · intro noticed rests
      obtain ⟨tasks, free, awake⟩ := still.mp rests
      exact (notices rests).mpr (noticed _ ends tasks free awake)

/-- A run whose steps leave no pill behind ends idle if it ends still, and the other way round. -/
theorem still_run {allowed : SchedulerWorld → SchedulerAction → Prop} {past : List Taken}
    (history : Transition.History (step config) allowed {} past world) :
    ((∀ taken ∈ past, taken.after.scheduler.Still → taken.after.scheduler.idle = true) ↔
      ∀ taken ∈ past, taken.before.LeavesNoPill taken.action) ∧
    ((∀ taken ∈ past, taken.after.scheduler.Still → taken.after.scheduler.idle = true) →
      world.scheduler.Still → world.scheduler.idle = true) := by
  induction history with
  | refl => exact ⟨by simp, fun _ _ => rfl⟩
  | next earlier may taken ih =>
    obtain ⟨same, known⟩ := ih
    simp only [List.forall_mem_cons]
    refine ⟨?_, And.left⟩
    constructor
    · rintro ⟨now, before⟩
      exact ⟨(still_step (accounted earlier.run) (known before) taken).mp now, same.mp before⟩
    · rintro ⟨now, before⟩
      have before := same.mpr before
      exact ⟨(still_step (accounted earlier.run) (known before) taken).mpr now, before⟩

end SchedulerWorld

open SchedulerWorld

/-- **`drain` sees the scheduler go quiet** in exactly the runs in which no worker leaves pills
behind: `_idle` is set in every state with no id queued, no worker in a call and no retry
asleep, if and only if no call ends as the last one, with nothing else to do, while a pill is in
the queue. -/
theorem rest_noticed_iff {config : SchedulerConfig}
    {allowed : SchedulerWorld → SchedulerAction → Prop} {past : List SchedulerWorld.Taken}
    {world : SchedulerWorld} (history : Transition.History (step config) allowed {} past world) :
    (∀ taken ∈ past, taken.after.scheduler.Still → taken.after.scheduler.idle = true) ↔
      ∀ taken ∈ past, taken.before.LeavesNoPill taken.action :=
  (still_run history).1

namespace Bench

/-- A task that runs, and a `stop` after it. -/
def stoppedLater : List SchedulerAction :=
  [.others registry, .start, .submit spec "only", .take 0, .leased 0 0, .sinkReturned 0,
    .executed 0 (.result .null) 0, .released 0, .sinkReturned 0, .stop, .take 0, .take 1,
    .stopped 0]

/-- A task that runs, and a `stop` before its worker has left the call. -/
def stoppedMeanwhile : List SchedulerAction :=
  [.others registry, .start, .submit spec "only", .take 0, .leased 0 0, .sinkReturned 0, .stop,
    .take 1, .executed 0 (.result .null) 0, .released 0, .sinkReturned 0, .take 0, .stopped 0]

end Bench

/-- The equivalence at a run that is stopped after its task. -/
theorem rest_noticed_iff_stopped : ∃ past : List SchedulerWorld.Taken, past.length = 13 ∧
    (∀ taken ∈ past, taken.before.LeavesNoPill taken.action) ∧
    ((∀ taken ∈ past, taken.after.scheduler.Still → taken.after.scheduler.idle = true) ↔
      ∀ taken ∈ past, taken.before.LeavesNoPill taken.action) := by
  have passed : (Transition.trace (Transition.guarded (step Bench.config) Distinct) [] {}
      Bench.stoppedLater).any (fun reached => decide (reached.1.length = 13 ∧
        ∀ taken ∈ reached.1, taken.before.LeavesNoPill taken.action)) = true := by
    decide +kernel
  obtain ⟨past, world, history, shown⟩ := Transition.traces passed
  obtain ⟨length, leaves⟩ := of_decide_eq_true shown
  exact ⟨past, length, leaves, rest_noticed_iff history⟩

/-- **A scheduler can be quiet without knowing it.** A `stop` overlaps the last task; afterwards
nothing is queued, running or asleep, and `_idle` is not set. -/
theorem rest_unnoticed : ∃ world : SchedulerWorld,
    Transition.Run (step Bench.config) Distinct {} world ∧ world.scheduler.Still ∧
    world.scheduler.queue = [] ∧ world.scheduler.workers = [.exited, .exited] ∧
    world.scheduler.idle = false := by
  have passed : (Transition.execute (Transition.guarded (step Bench.config) Distinct) {}
      Bench.stoppedMeanwhile).any (fun world => decide (world.scheduler.Still ∧
        world.scheduler.queue = [] ∧ world.scheduler.workers = [.exited, .exited] ∧
        world.scheduler.idle = false)) = true := by
    decide +kernel
  obtain ⟨world, run, shown⟩ := Transition.reaches passed
  exact ⟨world, run, of_decide_eq_true shown⟩

end DeviceOrchestrator
