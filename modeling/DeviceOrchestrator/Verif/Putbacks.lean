import DeviceOrchestrator.Verif.Moves

/-!
# How often a task is put back

`_requeue` compares the recorded attempts with `max_attempts`, and only a lease records one. So an
attempt that failed is put back fewer than `max_attempts` times: each put-back is paid for by an
attempt of its own. A lease that timed out is paid for by nothing, and a task whose devices stay
away goes round for ever.
-/
namespace DeviceOrchestrator

/-- The awaits of a call that has recorded an attempt and may still put its record back. -/
def Point.owes : Point → Bool
  | starting _ _ | executing _ _ | quarantining _ _ | requeueing _ _ => true
  | _ => false

/-- A worker inside such a call on a record. -/
def Worker.owes (index : Nat) : Worker → Bool
  | busy held point => held == index && point.owes
  | idle | exited => false

/-- A worker that announces PENDING and then creates the retry of a record. -/
def Worker.putsBack (index : Nat) : Worker → Bool
  | busy held point => held == index && point.requeues
  | idle | exited => false

namespace SchedulerWorld

/-- Whether a step creates a retry of a record. -/
def putsBack (index : Nat) (taken : Taken) : Bool :=
  match taken.action with
  | .sinkReturned worker =>
    taken.before.scheduler.workers[worker]?.any fun state => state.putsBack index
  | _ => false

/-- How often a record was put back. -/
def putBacks (past : List Taken) (index : Nat) : Nat := past.countP (putsBack index)

/-- Whether a lease of a record times out while the record has attempts left. -/
def timesOut (index : Nat) (taken : Taken) : Bool :=
  match taken.action with
  | .leaseTimeout worker _ => (taken.before.at? worker).any fun held =>
    held.1 == index && decide ((held.2.2.attemptCount : Int) < held.2.2.spec.maxAttempts)
  | _ => false

/-- Whether a worker takes an id off the queue. -/
def dequeues (taskId : TaskId) (taken : Taken) : Bool :=
  match taken.action with
  | .take worker => taken.before.scheduler.workers[worker]? = some .idle ∧
    taken.before.scheduler.queue.head? = some (some taskId)
  | _ => false

/-- Whether an id is submitted. -/
def submits (taskId : TaskId) (taken : Taken) : Bool :=
  match taken.action with
  | .submit spec _ => spec.id = taskId
  | _ => false

end SchedulerWorld

namespace Scheduler

/-- The attempts of a record. -/
def attemptsOf (scheduler : Scheduler) (index : Nat) : Nat :=
  (scheduler.records[index]?.map TaskRecord.attemptCount).getD 0

/-- The attempts that a record may use. -/
def budgetOf (scheduler : Scheduler) (index : Nat) : Int :=
  (scheduler.records[index]?.map fun record => record.spec.maxAttempts).getD 0

end Scheduler

namespace SchedulerWorld

open Scheduler

/-- **The account of one record.** Each of its put-backs, done or still to come, has an attempt of
its own, and there are fewer of them than it may make attempts. -/
structure Budgeted (past : List Taken) (scheduler : Scheduler) (index : Nat) : Prop where
  /-- Put-backs and calls that may still put back are paid for by attempts. -/
  paid : putBacks past index + scheduler.workers.countP (Worker.owes index) ≤
    scheduler.attemptsOf index
  /-- Put-backs decided so far are fewer than the attempts allowed. -/
  bounded : (putBacks past index + scheduler.workers.countP (Worker.putsBack index) : Int) <
    max 1 (scheduler.budgetOf index)

variable {config : SchedulerConfig} {world after : SchedulerWorld} {action : SchedulerAction}
variable {past : List Taken} {scheduler : Scheduler} {index : Nat}

/-- A call that puts back owes. -/
theorem Worker.owes_of_putsBack {state : Worker} (puts : state.putsBack index = true) :
    state.owes index = true := by
  cases state with
  | busy held point =>
    simp only [Worker.putsBack, Worker.owes, Bool.and_eq_true] at puts ⊢
    refine ⟨puts.1, ?_⟩
    have requeues := puts.2
    cases point <;> first | rfl | cases requeues
  | idle => cases puts
  | exited => cases puts

/-- **One worker moves.** The account is kept if the attempts pay for what the worker then owes,
and if it decides on a put-back only below the budget. -/
theorem Budgeted.moved {old : Worker} {worker : Nat} {taken : Taken} {next : Scheduler}
    (budgeted : Budgeted past scheduler index) (new : Worker)
    (found : scheduler.workers[worker]? = some old)
    (workers : next.workers = scheduler.workers.set worker new)
    (budget : next.budgetOf index = scheduler.budgetOf index)
    (paid : (putsBack index taken).toNat + (new.owes index).toNat + scheduler.attemptsOf index ≤
      (old.owes index).toNat + next.attemptsOf index)
    (bounded : (putsBack index taken).toNat + (new.putsBack index).toNat ≤
        (old.putsBack index).toNat ∨
      (old.owes index = true ∧ old.putsBack index = false ∧ putsBack index taken = false ∧
        (scheduler.attemptsOf index : Int) < scheduler.budgetOf index)) :
    Budgeted (taken :: past) next index := by
  have owing := Slots.countP_set (Worker.owes index) found new
  have putting := Slots.countP_set (Worker.putsBack index) found new
  have counted : putBacks (taken :: past) index =
      putBacks past index + (putsBack index taken).toNat := by
    cases puts : putsBack index taken <;> simp [putBacks, puts]
  rw [← workers] at owing putting
  simp only [Slots.ite_toNat] at owing putting
  have before := budgeted.paid
  have below := budgeted.bounded
  constructor
  · rw [counted]
    omega
  · rw [counted, budget]
    rcases bounded with fewer | ⟨owes, waits, quiet, left⟩
    · omega
    · -- Everyone else who puts back owes as well.
      have others : (scheduler.workers.set worker .idle).countP (Worker.putsBack index) ≤
          (scheduler.workers.set worker .idle).countP (Worker.owes index) :=
        List.countP_mono_left fun _ _ => Worker.owes_of_putsBack
      have owing' := Slots.countP_set (Worker.owes index) found .idle
      have putting' := Slots.countP_set (Worker.putsBack index) found .idle
      have one := Bool.toNat_le (new.putsBack index)
      have free : Worker.idle.owes index = false ∧ Worker.idle.putsBack index = false :=
        ⟨rfl, rfl⟩
      simp only [owes, waits, quiet, free, Bool.false_eq_true, if_false, if_true,
        Bool.toNat_false] at owing' putting' putting ⊢
      omega

/-- A step that moves no worker in a call keeps the account. -/
theorem Budgeted.aside {taken : Taken} {next : Scheduler} (budgeted : Budgeted past scheduler index)
    (quiet : putsBack index taken = false)
    (owing : next.workers.countP (Worker.owes index) =
      scheduler.workers.countP (Worker.owes index))
    (putting : next.workers.countP (Worker.putsBack index) =
      scheduler.workers.countP (Worker.putsBack index))
    (attempts : scheduler.attemptsOf index ≤ next.attemptsOf index)
    (budget : max 1 (scheduler.budgetOf index) ≤ max 1 (next.budgetOf index)) :
    Budgeted (taken :: past) next index := by
  have counted : putBacks (taken :: past) index = putBacks past index := by
    simp [putBacks, quiet]
  have before := budgeted.paid
  have below := budgeted.bounded
  constructor
  · rw [counted, owing]
    omega
  · rw [counted, putting]
    omega

section
variable {held : Nat} {record new : TaskRecord} {next : Scheduler}

/-- What is read of a known record. -/
theorem attemptsOf_known (known : scheduler.records[held]? = some record) :
    scheduler.attemptsOf held = record.attemptCount ∧
      scheduler.budgetOf held = record.spec.maxAttempts := by
  simp [attemptsOf, budgetOf, known]

/-- What is read of a rewritten record. -/
theorem attemptsOf_set (next : Scheduler) (known : scheduler.records[held]? = some record)
    (records : next.records = scheduler.records.set held new) :
    next.attemptsOf held = new.attemptCount ∧ next.budgetOf held = new.spec.maxAttempts := by
  obtain ⟨bound, -⟩ := List.getElem?_eq_some_iff.mp known
  exact attemptsOf_known (by simp [records, bound])

/-- What is read of any other record. -/
theorem attemptsOf_apart (next : Scheduler) (apart : held ≠ index)
    (records : next.records = scheduler.records.set held new) :
    next.attemptsOf index = scheduler.attemptsOf index ∧
      next.budgetOf index = scheduler.budgetOf index := by
  simp [attemptsOf, budgetOf, records, List.getElem?_set_ne apart]

/-- What a worker in a call on a record owes to it. -/
theorem owes_within (held index : Nat) (place : Option Point) :
    (Worker.within held place).owes index = (held == index && place.any Point.owes) ∧
      (Worker.within held place).putsBack index =
        (held == index && place.any Point.requeues) := by
  cases place <;> simp [Worker.within, Worker.owes, Worker.putsBack]

/-- **A worker in a call goes on.** The account is kept if its attempts pay for what it then owes,
and if it decides on a put-back only below the budget. -/
theorem Budgeted.goes {worker : Nat} {taken : Taken}
    (budgeted : Budgeted past scheduler index) (old place : Option Point) (puts : Bool)
    (found : scheduler.workers[worker]? = some (Worker.within held old))
    (known : scheduler.records[held]? = some record)
    (workers : next.workers = scheduler.workers.set worker (Worker.within held place))
    (records : next.records = scheduler.records.set held new) (spec : new.spec = record.spec)
    (quiet : putsBack index taken = (held == index && puts))
    (paid : held = index → puts.toNat + (place.any Point.owes).toNat + record.attemptCount ≤
      (old.any Point.owes).toNat + new.attemptCount)
    (bounded : held = index →
      puts.toNat + (place.any Point.requeues).toNat ≤ (old.any Point.requeues).toNat ∨
        (old.any Point.owes = true ∧ old.any Point.requeues = false ∧ puts = false ∧
          (record.attemptCount : Int) < record.spec.maxAttempts)) :
    Budgeted (taken :: past) next index := by
  have before := owes_within held index old
  have after := owes_within held index place
  by_cases own : held = index
  · subst own
    obtain ⟨attempts, budget⟩ := attemptsOf_known known
    obtain ⟨attempts', budget'⟩ := attemptsOf_set next known records
    simp only [BEq.rfl, Bool.true_and] at before after quiet
    refine budgeted.moved (.within held place) found workers (by rw [budget', budget, spec]) ?_ ?_
    · rw [quiet, before.1, after.1, attempts, attempts']
      exact paid rfl
    · rw [quiet, before.1, before.2, after.2, attempts, budget]
      exact bounded rfl
  · obtain ⟨attempts, budget⟩ := attemptsOf_apart next own records
    have other : (held == index) = false := by simpa using own
    simp only [other, Bool.false_and] at before after quiet
    refine budgeted.moved (.within held place) found workers budget ?_ (.inl ?_)
    · simp [quiet, before.1, after.1, attempts]
    · simp [quiet, before.2, after.2]

/-- A record rewritten with itself. -/
theorem records_kept (known : scheduler.records[held]? = some record) :
    scheduler.records = scheduler.records.set held record := by
  obtain ⟨bound, rfl⟩ := List.getElem?_eq_some_iff.mp known
  exact (List.set_getElem_self bound).symm

/-- Rewriting a record without its attempts and its budget keeps the account. -/
theorem Budgeted.rewritten (budgeted : Budgeted past scheduler index)
    (known : scheduler.records[held]? = some record)
    (count : new.attemptCount = record.attemptCount) (spec : new.spec = record.spec) :
    Budgeted past { scheduler with records := scheduler.records.set held new } index := by
  let next : Scheduler := { scheduler with records := scheduler.records.set held new }
  have read : next.attemptsOf index = scheduler.attemptsOf index ∧
      next.budgetOf index = scheduler.budgetOf index := by
    by_cases own : held = index
    · subst own
      obtain ⟨attempts, budget⟩ := attemptsOf_known known
      obtain ⟨attempts', budget'⟩ := attemptsOf_set next known rfl
      rw [attempts, budget, attempts', budget', count, spec]
      exact ⟨rfl, rfl⟩
    · exact attemptsOf_apart next own rfl
  refine (⟨?_, ?_⟩ : Budgeted past next index)
  · rw [read.1]
    exact budgeted.paid
  · rw [read.2]
    exact budgeted.bounded

/-- A worker that leaves its call owes nothing any more. -/
theorem Budgeted.leave {worker : Nat} {taken : Taken}
    (budgeted : Budgeted past scheduler index) (old : Option Point)
    (found : scheduler.workers[worker]? = some (Worker.within held old))
    (known : scheduler.records[held]? = some record) (quiet : putsBack index taken = false) :
    Budgeted (taken :: past) (scheduler.leave worker) index := by
  refine budgeted.goes old none false found known (workers_leave _ _) ?_ rfl
    (by simpa using quiet) (fun _ => by simp) (fun _ => by simp)
  rw [records_leave]
  exact records_kept known

/-- `_requeue` keeps the account, unless it puts back a record without an attempt. -/
theorem Budgeted.requeue {worker : Nat} {point : Point} {taken : Taken} {lease : Option Lease}
    (budgeted : Budgeted past scheduler index)
    (busy : scheduler.workers[worker]? = some (.busy held point))
    (known : scheduler.records[held]? = some record) (quiet : putsBack index taken = false)
    (waits : point.requeues = false)
    (attempted : held = index → (record.attemptCount : Int) < record.spec.maxAttempts →
      point.owes = true)
    (went : Requeue scheduler worker held record lease next) :
    Budgeted (taken :: past) next index := by
  have found : scheduler.workers[worker]? = some (Worker.within held (some point)) := busy
  cases went with
  | exhausted error spent =>
    exact budgeted.goes (some point) (some (.failing lease)) false found known rfl rfl rfl
      (by simpa using quiet) (fun _ => by simp [Point.owes, TaskRecord.attemptCount])
      (fun _ => .inl (by simp [Point.requeues]))
  | delayed delay left small =>
    refine budgeted.goes (some point) (some (.requeueing lease delay)) false found known rfl
      rfl rfl (by simpa using quiet) (fun own => ?_) (fun own => .inr ?_)
    · have owes := attempted own left
      have promised : (Point.requeueing lease delay).owes = true := rfl
      simp [owes, promised, TaskRecord.attemptCount]
    · exact ⟨attempted own left, waits, rfl, left⟩
  | overflow left large =>
    cases lease with
    | none => exact budgeted.leave (some point) found known quiet
    | some lease =>
      exact budgeted.goes (some point) (some (.releasing lease)) false found known rfl
        (records_kept known) rfl (by simpa using quiet) (fun _ => by simp [Point.owes])
        (fun _ => .inl (by simp [Point.requeues]))

/-- What follows a sink keeps the account: the retry was paid for when it was decided on. -/
theorem Budgeted.sinkReturned {worker : Nat} {point : Point}
    (budgeted : Budgeted past world.scheduler index)
    (busy : world.scheduler.workers[worker]? = some (.busy held point))
    (known : world.scheduler.records[held]? = some record)
    (went : world.scheduler.sinkReturned worker held record point = some next) :
    Budgeted (⟨world, .sinkReturned worker, after⟩ :: past) next index := by
  have found : world.scheduler.workers[worker]? = some (Worker.within held (some point)) := busy
  have asked : putsBack index ⟨world, .sinkReturned worker, after⟩ =
      (held == index && point.requeues) := by
    simp [putsBack, busy, Worker.putsBack]
  have goes : ∀ {middle : Scheduler} (place : Option Point) (puts : Bool),
      middle.workers = world.scheduler.workers.set worker (Worker.within held place) →
      middle.records = world.scheduler.records → point.requeues = puts →
      puts.toNat + (place.any Point.owes).toNat ≤ point.owes.toNat →
      puts.toNat + (place.any Point.requeues).toNat ≤ point.requeues.toNat →
      Budgeted (⟨world, .sinkReturned worker, after⟩ :: past) middle index := by
    intro middle place puts workers records requeues paid bounded
    refine budgeted.goes (some point) place puts found known workers
      (records.trans (records_kept known)) rfl
      (by rw [asked, requeues]) (fun _ => ?_) (fun _ => .inl bounded)
    rw [Option.any_some]
    omega
  cases point with
  | abandoning =>
    cases went
    exact goes none false (workers_leave _ _) (records_leave _ _) rfl (by decide) (by decide)
  | announcing =>
    cases went
    exact goes none false (workers_leave _ _) (records_leave _ _) rfl (by decide) (by decide)
  | starting lease attempt =>
    cases went
    exact goes (some (.executing lease attempt)) false rfl rfl rfl (Nat.le_refl 1) (Nat.le_refl 0)
  | requeueing lease delay =>
    cases went
    cases lease with
    | none =>
      exact goes none true (workers_leave _ _) (records_leave _ _) rfl (Nat.le_refl 1)
        (Nat.le_refl 1)
    | some lease =>
      exact goes (some (.releasing lease)) true rfl rfl rfl (Nat.le_refl 1) (Nat.le_refl 1)
  | failing lease =>
    cases went
    cases lease with
    | none =>
      exact goes none false (workers_leave _ _) (records_leave _ _) rfl (by decide) (by decide)
    | some lease =>
      exact goes (some (.releasing lease)) false rfl rfl rfl (Nat.le_refl 0) (Nat.le_refl 0)
  | acquiring => cases went
  | executing lease attempt => cases went
  | quarantining lease reason => cases went
  | releasing lease => cases went

/-- A sink that raises creates no retry. -/
theorem Budgeted.sinkRaised {worker : Nat} {point : Point}
    (budgeted : Budgeted past world.scheduler index)
    (busy : world.scheduler.workers[worker]? = some (.busy held point))
    (known : world.scheduler.records[held]? = some record)
    (went : world.scheduler.sinkRaised worker held point = some next) :
    Budgeted (⟨world, .sinkRaised worker, after⟩ :: past) next index := by
  have found : world.scheduler.workers[worker]? = some (Worker.within held (some point)) := busy
  obtain ⟨lease, rfl⟩ := Scheduler.sinkRaised_unwind went
  cases lease with
  | none => exact budgeted.leave (some point) found known rfl
  | some lease =>
    exact budgeted.goes (some point) (some (.releasing lease)) false found known rfl
      (records_kept known) rfl (by simp [putsBack]) (fun _ => by simp [Point.owes])
      (fun _ => .inl (by simp [Point.requeues]))

/-- Taking a token keeps the account. -/
theorem Budgeted.take {worker : Nat} {taskId : TaskId} {rest : List (Option TaskId)}
    (budgeted : Budgeted past world.scheduler index)
    (idle : world.scheduler.workers[worker]? = some .idle) :
    Budgeted (⟨world, .take worker, after⟩ :: past)
      (world.scheduler.takeTask world.registry worker taskId rest) index := by
  let middle : Scheduler := { world.scheduler with
    queue := rest
    inflight := world.scheduler.inflight + 1 }
  have begun : Budgeted past middle index := ⟨budgeted.paid, budgeted.bounded⟩
  have still : ∀ {next : Scheduler}, next.workers = middle.workers.set worker .idle →
      next.records = middle.records →
      Budgeted (⟨world, .take worker, after⟩ :: past) next index := by
    intro next workers records
    have budget : next.budgetOf index = middle.budgetOf index := by simp [budgetOf, records]
    have attempts : next.attemptsOf index = middle.attemptsOf index := by
      simp [attemptsOf, records]
    refine begun.moved .idle idle workers budget ?_ (.inl ?_)
    · simp [putsBack, attempts]
    · simp [putsBack]
  have went := takeTask_cases world.registry worker taskId rest world.scheduler
  generalize world.scheduler.takeTask world.registry worker taskId rest = next at went ⊢
  cases went with
  | skipped skips => exact still (workers_leave _ _) (records_leave _ _)
  | raised index record error named known unskipped raised =>
    exact still (workers_leave _ _) (records_leave _ _)
  | abandoned held record error named known unskipped =>
    exact begun.goes none (some .abandoning) false idle known rfl rfl
      rfl (by simp [putsBack]) (fun _ => Nat.le_refl _) (fun _ => .inl (Nat.le_refl 0))
  | acquiring held record named known unskipped =>
    exact begun.goes none (some .acquiring) false idle known rfl rfl
      rfl (by simp [putsBack]) (fun _ => Nat.le_refl _) (fun _ => .inl (Nat.le_refl 0))

end

/-- A submitted specification starts a new account and leaves the others alone. -/
theorem Budgeted.submit {spec : TaskSpec} {correlationId : String} {taken : Taken}
    (budgeted : Budgeted past scheduler index) (quiet : putsBack index taken = false) :
    Budgeted (taken :: past) (scheduler.submit config spec correlationId) index := by
  have added : ∀ {new : TaskRecord} {next : Scheduler}, new.attempts = [] →
      next.workers = scheduler.workers → next.records = scheduler.records ++ [new] →
      Budgeted (taken :: past) next index := by
    intro new next unused workers records
    refine budgeted.aside quiet (by rw [workers]) (by rw [workers]) ?_ ?_
    · rcases Nat.lt_or_ge index scheduler.records.length with old | later
      · simp [attemptsOf, records, List.getElem?_append_left old]
      · simp [attemptsOf, List.getElem?_eq_none later]
    · rcases Nat.lt_or_ge index scheduler.records.length with old | later
      · simp [budgetOf, records, List.getElem?_append_left old]
      · simp [budgetOf, List.getElem?_eq_none later]
  unfold Scheduler.submit
  dsimp only
  split
  · exact added rfl rfl rfl
  · exact added rfl rfl rfl

/-- **Every step keeps the account of a record**, unless a lease of it times out too soon. -/
theorem budgeted_step (budgeted : Budgeted past world.scheduler index)
    (patient : timesOut index ⟨world, action, after⟩ = false)
    (taken : step config world action = some after) (later : SchedulerWorld) :
    Budgeted (⟨world, action, later⟩ :: past) after.scheduler index := by
  have still : ∀ {next : Scheduler}, putsBack index ⟨world, action, later⟩ = false →
      next.workers = world.scheduler.workers → next.records = world.scheduler.records →
      Budgeted (⟨world, action, later⟩ :: past) next index := fun quiet workers records =>
    budgeted.aside quiet (by rw [workers]) (by rw [workers]) (by simp [attemptsOf, records])
      (by simp [budgetOf, records])
  cases step_effect taken with
  | submit spec correlationId => exact budgeted.submit rfl
  | start =>
    simp only [withScheduler, Scheduler.start]
    split
    · exact still rfl rfl rfl
    · have free : ∀ (counts : Worker → Bool) (number : Nat), counts .idle = false →
          (world.scheduler.workers ++ List.replicate number Worker.idle).countP counts =
            world.scheduler.workers.countP counts := by
        intro counts number uncounted
        simp [List.countP_append, List.countP_replicate, uncounted]
      exact budgeted.aside rfl (free _ _ rfl) (free _ _ rfl) (Nat.le_refl _) (Int.le_refl _)
  | stop =>
    simp only [withScheduler, Scheduler.stop]
    split
    · exact still rfl rfl rfl
    · exact still rfl rfl rfl
  | stopped call stopping => exact still rfl rfl rfl
  | pill worker rest idle head =>
    exact budgeted.moved .exited idle rfl rfl (Nat.le_refl _) (.inl (Nat.le_refl 0))
  | take worker taskId rest idle head => exact budgeted.take idle
  | leased worker token held record device attempts busy known free fresh length =>
    refine budgeted.goes (some .acquiring)
      (some (.starting ⟨device.id, token⟩ record.attemptCount)) false busy known rfl rfl rfl
      (by simp [putsBack]) (fun _ => ?_) (fun _ => .inl (Nat.le_refl 0))
    have count : ({ record with attempts := attempts, state := .running } :
      TaskRecord).attemptCount = record.attemptCount + 1 := length
    have owed := Bool.toNat_le
      (Point.starting ⟨device.id, token⟩ record.attemptCount).owes
    simp only [Option.any_some, count, Bool.toNat_false]
    omega
  | leaseTimeout worker draw held record after busy known went =>
    refine budgeted.requeue busy known rfl rfl (fun own left => ?_) went
    subst own
    have here := at?_eq_some.mpr ⟨busy, known⟩
    simp [timesOut, here, left] at patient
  | leaseError worker held record error busy known raised =>
    exact budgeted.leave (some .acquiring) busy known rfl
  | sinkReturned worker held point record after busy known went =>
    exact budgeted.sinkReturned busy known went
  | sinkRaised worker held point record after busy known went =>
    exact budgeted.sinkRaised busy known went
  | executed worker outcome draw held lease attempt record ended after busy known same went =>
    have found : world.scheduler.workers[worker]? =
      some (Worker.within held (some (.executing lease attempt))) := busy
    have count : ended.attemptCount = record.attemptCount := by
      rw [same]
      exact record.endAttempt_attemptCount _ _
    have spec : ended.spec = record.spec := by rw [same]; rfl
    have releases : ∀ {new : TaskRecord} {place : Point} {next : Scheduler},
        next.workers = world.scheduler.workers.set worker (.busy held place) →
        next.records = world.scheduler.records.set held new → new.spec = record.spec →
        new.attemptCount = record.attemptCount → place.requeues = false →
        Budgeted (⟨world, .executed worker outcome draw, later⟩ :: past) next index := by
      intro new place next workers records spec count requeues
      refine budgeted.goes (some (.executing lease attempt)) (some place) false found known workers
        records spec (by simp [putsBack]) (fun _ => ?_) (fun _ => .inl (by simp [requeues]))
      have owed : (Point.executing lease attempt).owes = true := rfl
      have one := Bool.toNat_le place.owes
      simp only [Option.any_some, owed, count, Bool.toNat_false, Bool.toNat_true]
      omega
    cases went with
    | succeeded value => exact releases rfl rfl spec count rfl
    | rejected message => exact releases rfl rfl spec count rfl
    | blamed outcome reason wired blames online => exact releases rfl rfl spec count rfl
    | requeued outcome next fails excused went =>
      obtain ⟨bound, -⟩ := List.getElem?_eq_some_iff.mp known
      have entered : ({ world.scheduler with
          records := world.scheduler.records.set held ended } : Scheduler).records[held]? =
            some ended := by
        simp [bound]
      exact (budgeted.rewritten known count spec).requeue busy entered rfl rfl (fun _ _ => rfl) went
  | quarantined worker draw held lease reason record after busy known went =>
    exact budgeted.requeue busy known rfl rfl (fun _ _ => rfl) went
  | quarantineRaised worker held lease reason record busy known =>
    exact budgeted.goes (some (.quarantining lease reason)) (some (.releasing lease)) false busy
      known rfl rfl rfl (by simp [putsBack]) (fun _ => by simp [Point.owes])
      (fun _ => .inl (Nat.le_refl 0))
  | releasedQuietly worker held lease record busy known pending =>
    exact budgeted.leave (some (.releasing lease)) busy known rfl
  | released worker held lease record busy known settled =>
    exact budgeted.goes (some (.releasing lease)) (some .announcing) false busy known rfl rfl rfl
      (by simp [putsBack]) (fun _ => Nat.le_refl _) (fun _ => .inl (Nat.le_refl 0))
  | retryDue position retry found =>
    exact still rfl (workers_settleIdle _) (records_settleIdle _)
  | others registry => exact still rfl rfl rfl

/-- Whether a step creates a retry of an id. -/
def creates (taskId : TaskId) (taken : Taken) : Bool :=
  match taken.action with
  | .sinkReturned worker => (taken.before.at? worker).any fun held =>
    held.2.1.requeues && decide (held.2.2.spec.id = taskId)
  | _ => false

section
variable {taskId : TaskId} {next : Scheduler} {later : SchedulerWorld}

/-- Tokens lie in the queue and in the retries. -/
theorem tokens_kept (queue : next.queue = scheduler.queue)
    (retries : next.retries = scheduler.retries) :
    next.tokens taskId = scheduler.tokens taskId := by
  simp [tokens, queue, retries]

/-- A worker takes the token at the head of the queue. -/
theorem tokens_takeTask (registry : Registry) (worker : Nat) {rest : List (Option TaskId)}
    (head : scheduler.queue = some taskId :: rest) :
    (scheduler.takeTask registry worker taskId rest).tokens =
      Function.update scheduler.tokens taskId (scheduler.tokens taskId - 1) := by
  have went := takeTask_cases registry worker taskId rest scheduler
  generalize scheduler.takeTask registry worker taskId rest = next at went ⊢
  cases went with
  | skipped skips => exact tokens_dequeued head (queue_leave _ _) (retries_leave _ _)
  | raised index record error named known unskipped raised =>
    exact tokens_dequeued head (queue_leave _ _) (retries_leave _ _)
  | abandoned index record error named known unskipped => exact tokens_dequeued head rfl rfl
  | acquiring index record named known unskipped => exact tokens_dequeued head rfl rfl

/-- `_requeue` itself moves no token. -/
theorem tokens_requeue {worker held : Nat} {record : TaskRecord} {lease : Option Lease}
    (went : Requeue scheduler worker held record lease next) :
    next.tokens taskId = scheduler.tokens taskId := by
  cases went with
  | exhausted error spent => exact tokens_kept rfl rfl
  | delayed delay left small => exact tokens_kept rfl rfl
  | overflow left large => rw [(scheduler.unwind_view worker held lease).2.2]

/-- A sink that returned creates the retry that was decided on. -/
theorem tokens_sinkReturned (taskId : TaskId) (later : SchedulerWorld) {worker held : Nat}
    {point : Point} {record : TaskRecord}
    (busy : world.scheduler.workers[worker]? = some (.busy held point))
    (known : world.scheduler.records[held]? = some record)
    (went : world.scheduler.sinkReturned worker held record point = some next) :
    next.tokens taskId = world.scheduler.tokens taskId +
      (creates taskId ⟨world, .sinkReturned worker, later⟩).toNat := by
  have here := at?_eq_some.mpr ⟨busy, known⟩
  have asked : creates taskId ⟨world, .sinkReturned worker, later⟩ =
      (point.requeues && decide (record.spec.id = taskId)) := by
    simp [creates, here]
  rw [asked]
  cases point with
  | requeueing lease delay =>
    cases went
    let middle : Scheduler := { world.scheduler with
      pendingRetries := world.scheduler.pendingRetries + 1
      idle := false
      retries := world.scheduler.retries ++ [Retry.mk record.spec.id delay] }
    have queue : middle.queue = world.scheduler.queue := rfl
    have retries : middle.retries =
      world.scheduler.retries ++ [Retry.mk record.spec.id delay] := rfl
    rw [(middle.unwind_view worker held lease).2.2, tokens_created queue retries]
    by_cases same : record.spec.id = taskId
    · simp [same, Point.requeues]
    · simp [same, Ne.symm same]
  | abandoning => cases went; exact tokens_kept (queue_leave _ _) (retries_leave _ _)
  | announcing => cases went; exact tokens_kept (queue_leave _ _) (retries_leave _ _)
  | starting lease attempt => cases went; exact tokens_kept rfl rfl
  | failing lease =>
    cases went
    rw [(world.scheduler.unwind_view worker held lease).2.2]
    rfl
  | acquiring => cases went
  | executing lease attempt => cases went
  | quarantining lease reason => cases went
  | releasing lease => cases went

/-- **Where tokens come from and go to.** Only a submission and a retry make one, and a worker
takes one away. -/
theorem tokens_step (taskId : TaskId) (later : SchedulerWorld)
    (taken : step config world action = some after) :
    after.scheduler.tokens taskId + (dequeues taskId ⟨world, action, later⟩).toNat ≤
      world.scheduler.tokens taskId + (submits taskId ⟨world, action, later⟩).toNat +
        (creates taskId ⟨world, action, later⟩).toNat := by
  have still : ∀ {next : Scheduler}, next.tokens taskId = world.scheduler.tokens taskId →
      dequeues taskId ⟨world, action, later⟩ = false →
      next.tokens taskId + (dequeues taskId ⟨world, action, later⟩).toNat ≤
        world.scheduler.tokens taskId + (submits taskId ⟨world, action, later⟩).toNat +
          (creates taskId ⟨world, action, later⟩).toNat := by
    intro next same quiet
    rw [same, quiet, Bool.toNat_false]
    omega
  cases step_effect taken with
  | submit spec correlationId =>
    have one : (submits taskId ⟨world, .submit spec correlationId, later⟩).toNat =
        if taskId = spec.id then 1 else 0 := by
      by_cases own : spec.id = taskId
      · simp [submits, own]
      · simp [submits, own, Ne.symm own]
    rw [one]
    simp only [withScheduler, Scheduler.submit, dequeues, creates, Bool.toNat_false]
    split
    · rw [tokens_queued (by rfl) (by rfl), Function.update_apply]
      split <;> simp_all
    · exact Nat.le_add_right _ _
  | start =>
    refine still (tokens_kept ?_ ?_) rfl <;>
    · simp only [withScheduler, Scheduler.start]
      split <;> rfl
  | stop =>
    refine still ?_ rfl
    simp only [withScheduler, Scheduler.stop]
    split
    · rw [tokens_pills (by rfl) (by rfl)]
    · rfl
  | stopped call stopping => exact still (tokens_kept rfl rfl) rfl
  | pill worker rest idle head =>
    refine still ?_ (by simp [dequeues, head])
    simp [withScheduler, place, tokens, head]
  | take worker other rest idle head =>
    have positive : 0 < world.scheduler.tokens other := by
      simp [tokens, head]
    simp only [withScheduler, tokens_takeTask world.registry worker head, Function.update_apply]
    by_cases same : taskId = other
    · subst same
      simp only [dequeues, idle, head, List.head?_cons, and_self, decide_true, if_true,
        Bool.toNat_true]
      omega
    · have other : dequeues taskId ⟨world, .take worker, later⟩ = false := by
        simp [dequeues, head, Ne.symm same]
      rw [if_neg same, other, Bool.toNat_false]
      omega
  | leased worker token held record device attempts busy known free fresh length =>
    exact still (tokens_kept rfl rfl) rfl
  | leaseTimeout worker draw held record after busy known went =>
    exact still (tokens_requeue went) rfl
  | leaseError worker held record error busy known raised =>
    exact still (tokens_kept (queue_leave _ _) (retries_leave _ _)) rfl
  | sinkReturned worker held point record after busy known went =>
    have made := tokens_sinkReturned taskId later busy known went
    simp only [withScheduler, made]
    simp [dequeues, submits]
  | sinkRaised worker held point record after busy known went =>
    obtain ⟨lease, rfl⟩ := Scheduler.sinkRaised_unwind went
    have same : (world.scheduler.unwind worker held lease).tokens taskId =
        world.scheduler.tokens taskId := by
      rw [(world.scheduler.unwind_view worker held lease).2.2]
    exact still same rfl
  | executed worker outcome draw held lease attempt record ended after busy known same went =>
    refine still ?_ rfl
    cases went with
    | succeeded value => exact tokens_kept rfl rfl
    | rejected message => exact tokens_kept rfl rfl
    | blamed outcome reason wired blames online => exact tokens_kept rfl rfl
    | requeued outcome after fails excused went =>
      exact (tokens_requeue went).trans (tokens_kept rfl rfl)
  | quarantined worker draw held lease reason record after busy known went =>
    exact still (tokens_requeue went) rfl
  | quarantineRaised worker held lease reason record busy known =>
    exact still (tokens_kept rfl rfl) rfl
  | releasedQuietly worker held lease record busy known pending =>
    exact still (tokens_kept (queue_leave _ _) (retries_leave _ _)) rfl
  | released worker held lease record busy known settled => exact still (tokens_kept rfl rfl) rfl
  | retryDue position retry found =>
    refine still ?_ rfl
    have settled : ∀ middle : Scheduler, middle.settleIdle.tokens taskId = middle.tokens taskId :=
      fun middle => tokens_kept (queue_settleIdle middle) (retries_settleIdle middle)
    simp only [withScheduler, settled]
    rw [tokens_woken found (by rfl) (by rfl)]
  | others registry => exact still (tokens_kept rfl rfl) rfl

/-- A record keeps its slot and its specification. -/
theorem spec_step (taken : step config world action = some after) {record : TaskRecord}
    (known : world.scheduler.records[index]? = some record) :
    ∃ new, after.scheduler.records[index]? = some new ∧ new.spec = record.spec := by
  by_cases submitted : ∃ spec correlationId, action = .submit spec correlationId
  · obtain ⟨spec, correlationId, rfl⟩ := submitted
    cases taken
    obtain ⟨bound, -⟩ := List.getElem?_eq_some_iff.mp known
    refine ⟨record, ?_, rfl⟩
    simp only [withScheduler, Scheduler.submit]
    split <;> rw [List.getElem?_append_left bound, known]
  · have same := sameSpecs_step taken fun spec correlationId submits =>
      submitted ⟨spec, correlationId, submits⟩
    have kept := congrArg (fun specs => specs[index]?) same.specs
    simp only [List.getElem?_map, known, Option.map_some] at kept
    exact Option.map_eq_some_iff.mp kept

/-- There is a record for each submission of an id. -/
theorem records_submitted (taskId : TaskId)
    {allowed : SchedulerWorld → SchedulerAction → Prop}
    (history : Transition.History (step config) allowed {} past world) :
    world.scheduler.records.countP (fun record => decide (record.spec.id = taskId)) =
      past.countP (submits taskId) := by
  have mapped : ∀ records : List TaskRecord,
      records.countP (fun record => decide (record.spec.id = taskId)) =
        (records.map TaskRecord.spec).countP fun spec => decide (spec.id = taskId) := by
    intro records
    rw [List.countP_map]
    rfl
  induction history with
  | refl => rfl
  | @next past world after action earlier may taken ih =>
    rw [List.countP_cons, ← ih]
    by_cases submitted : ∃ spec correlationId, action = .submit spec correlationId
    · obtain ⟨spec, correlationId, rfl⟩ := submitted
      cases taken
      simp only [withScheduler, Scheduler.submit, submits]
      split <;> simp [List.countP_append]
    · have same := sameSpecs_step taken fun spec correlationId submits =>
        submitted ⟨spec, correlationId, submits⟩
      have quiet : submits taskId ⟨world, action, after⟩ = false := by
        cases action with
        | submit spec correlationId => exact absurd ⟨spec, correlationId, rfl⟩ submitted
        | _ => rfl
      simp [mapped, same.specs, quiet]

/-- A retry of an id is a put-back of the one record of that id. -/
theorem creates_puts (makes : creates taskId ⟨world, action, later⟩ = true)
    (alone : ∀ (other : Nat) (record : TaskRecord), world.scheduler.records[other]? = some record →
      record.spec.id = taskId → other = index) :
    putsBack index ⟨world, action, later⟩ = true := by
  cases action with
  | sinkReturned worker =>
    obtain ⟨⟨held, point, record⟩, here, requeues⟩ := (Option.any_eq_true _ _).mp makes
    obtain ⟨busy, known⟩ := at?_eq_some.mp here
    simp only [Bool.and_eq_true, decide_eq_true_eq] at requeues
    obtain rfl := alone held record known requeues.2
    simp [putsBack, busy, Worker.putsBack, requeues.1]
  | _ => cases makes

/-- **The tokens of a task that is submitted under an id of its own.** What was dequeued and what
still waits was submitted or put back. -/
theorem circulated (taskId : TaskId) (index : Nat)
    {allowed : SchedulerWorld → SchedulerAction → Prop}
    (history : Transition.History (step config) allowed {} past world)
    (alone : ∀ (other : Nat) (record : TaskRecord), world.scheduler.records[other]? = some record →
      record.spec.id = taskId → other = index) :
    past.countP (dequeues taskId) + world.scheduler.tokens taskId ≤
      past.countP (submits taskId) + putBacks past index := by
  induction history with
  | refl => simp [tokens, putBacks]
  | @next past world after action earlier may taken ih =>
    have before := ih fun other record known same => by
      obtain ⟨new, known', spec⟩ := spec_step taken known
      exact alone other new known' (by rw [spec]; exact same)
    have moved := tokens_step taskId after taken
    have created : (creates taskId ⟨world, action, after⟩).toNat ≤
        (putsBack index ⟨world, action, after⟩).toNat := by
      refine Bool.toNat_le_toNat fun makes => creates_puts makes fun held record known same => ?_
      obtain ⟨new, known', spec⟩ := spec_step taken known
      exact alone held new known' (by rw [spec]; exact same)
    simp only [putBacks, List.countP_cons] at before ⊢
    simp only [Slots.ite_toNat]
    omega

end

/-- The account of a record in a run in which no lease of it times out too soon. -/
theorem budgeted_run {allowed : SchedulerWorld → SchedulerAction → Prop}
    (history : Transition.History (step config) allowed {} past world)
    (patient : ∀ taken ∈ past, timesOut index taken = false) :
    Budgeted past world.scheduler index := by
  induction history with
  | refl => exact ⟨Nat.le_refl 0, by simp [putBacks, budgetOf]⟩
  | next earlier may taken ih =>
    obtain ⟨now, before⟩ := List.forall_mem_cons.mp patient
    exact budgeted_step (ih before) now taken _

/-- **Retries are bounded while leases do not time out.** In every run in which no lease of a
record times out while it has attempts left, the record is put back fewer than
`max(1, max_attempts)` times, and if its id is submitted once, its id is dequeued at most
`max(1, max_attempts)` times. -/
theorem retries_bounded {allowed : SchedulerWorld → SchedulerAction → Prop}
    (history : Transition.History (step config) allowed {} past world) {record : TaskRecord}
    (known : world.scheduler.records[index]? = some record)
    (patient : ∀ taken ∈ past, timesOut index taken = false) :
    (putBacks past index : Int) < max 1 record.spec.maxAttempts ∧
      (past.countP (submits record.spec.id) ≤ 1 →
        (past.countP (dequeues record.spec.id) : Int) ≤ max 1 record.spec.maxAttempts) := by
  have budgeted := (budgeted_run history patient).bounded
  rw [(attemptsOf_known known).2] at budgeted
  refine ⟨by omega, fun once => ?_⟩
  have single := records_submitted record.spec.id history
  have moved := circulated record.spec.id index history fun other found known' same =>
    Slots.slot_unique (single.trans_le once) known' (by simpa using same) known (by simp)
  omega

end SchedulerWorld

open SchedulerWorld

namespace Bench

/-- A phone that is away. -/
def absent : Registry where
  devices := ⟨[{ id := "phone-a", state := .offline }], by decide⟩

/-- The task of one attempt, with no phone to run it on. -/
def away (worker : Worker) (queue : List (Option TaskId)) (inflight : Int) (retries : List Retry)
    (published : List StateEvent) : SchedulerWorld where
  registry := absent
  scheduler :=
    { records := [{ spec := spec, correlationId := "only" }]
      table := Function.update (fun _ => none) "demo" (some 0)
      queue := queue
      workers := [worker, .idle]
      pool := [0, 1]
      running := true
      idle := false
      inflight := inflight
      pendingRetries := retries.length
      retries := retries
      published := published }

/-- A task that fails once and then succeeds. -/
def retriedOnce : List SchedulerAction :=
  [.others registry, .start, .submit { kind := "android", id := "demo" } "only", .take 0,
    .leased 0 0, .sinkReturned 0, .executed 0 (.retryable "no such element" false) 0,
    .sinkReturned 0, .released 0, .retryDue 0, .take 1, .leased 1 1, .sinkReturned 1,
    .executed 1 (.result .null) 0, .released 1, .sinkReturned 1]

section
variable (published : List StateEvent) (delay : Rat)

/-- A lease times out, and the task is to wait for a retry. -/
theorem away_timedOut (computed : config.policy.backoff 0 0 = .ok delay) : ∃ published',
    step config (away (.busy 0 .acquiring) [] 1 [] published) (.leaseTimeout 0 0) =
      some (away (.busy 0 (.requeueing none delay)) [] 1 [] published') := by
  refine ⟨published ++ [({ spec := spec, correlationId := "only" } : TaskRecord).event], ?_⟩
  have asked : step config (away (.busy 0 .acquiring) [] 1 [] published) (.leaseTimeout 0 0) =
      some (withScheduler (away (.busy 0 .acquiring) [] 1 [] published)
        ((away (.busy 0 .acquiring) [] 1 [] published).scheduler.requeue config 0 0
          { spec := spec, correlationId := "only" } none "no device available" 0)) := rfl
  have none : ({ spec := spec, correlationId := "only" } : TaskRecord).attemptCount = 0 := rfl
  rw [asked, Scheduler.requeue, none, if_neg (by decide), computed]
  rfl

/-- **One more round.** From the queue and back to it, with no attempt. -/
theorem away_again {past : List SchedulerWorld.Taken}
    (history : Transition.History (step config) Distinct {} past
      (away .idle [some "demo"] 0 [] published)) :
    ∃ past' published', Transition.History (step config) Distinct {} past'
        (away .idle [some "demo"] 0 [] published') ∧
      putBacks past' 0 = putBacks past 0 + 1 ∧
      past'.countP (dequeues "demo") = past.countP (dequeues "demo") + 1 := by
  obtain ⟨delay, computed⟩ := (config.policy.backoff_ok_iff 0 0).mpr (by decide)
  obtain ⟨published', timedOut⟩ := away_timedOut published delay computed
  have taken : step config (away .idle [some "demo"] 0 [] published) (.take 0) =
      some (away (.busy 0 .acquiring) [] 1 [] published) := rfl
  have created : step config (away (.busy 0 (.requeueing none delay)) [] 1 [] published')
      (.sinkReturned 0) = some (away .idle [] 0 [⟨"demo", delay⟩] published') := rfl
  have due : step config (away .idle [] 0 [⟨"demo", delay⟩] published') (.retryDue 0) =
      some (away .idle [some "demo"] 0 [] published') := rfl
  have toRetry := (history.next (by trivial) taken).next (by trivial) timedOut
  exact ⟨_, published', (toRetry.next (by trivial) created).next (by trivial) due,
    by simp [putBacks, putsBack, away, Worker.putsBack, Point.requeues],
    by simp [dequeues, away]⟩

end

/-- The task after any number of rounds. -/
theorem away_rounds (count : Nat) : ∃ past published,
    Transition.History (step config) Distinct {} past
      (away .idle [some "demo"] 0 [] published) ∧
    putBacks past 0 = count ∧ past.countP (dequeues "demo") = count := by
  induction count with
  | zero =>
    have supplied : step config {} (.others absent) = some { registry := absent } := rfl
    have started : step config { registry := absent } .start = some
        { registry := absent
          scheduler := { workers := [.idle, .idle], pool := [0, 1], running := true } } := rfl
    have unnamed : Distinct
        { registry := absent
          scheduler := { workers := [.idle, .idle], pool := [0, 1], running := true } }
        (.submit spec "only") := rfl
    have submitted : step config
        { registry := absent
          scheduler := { workers := [.idle, .idle], pool := [0, 1], running := true } }
        (.submit spec "only") = some (away .idle [some "demo"] 0 [] []) := rfl
    exact ⟨_, [], ((Transition.History.refl.next (by trivial) supplied).next (by trivial)
      started).next unnamed submitted, rfl, rfl⟩
  | succ count ih =>
    obtain ⟨past, published, history, put, dequeued⟩ := ih
    obtain ⟨past', published', further, put', dequeued'⟩ := away_again published history
    exact ⟨past', published', further, by omega, by omega⟩

end Bench

/-- **A task whose phone is away goes round for ever.** With one attempt allowed and none made it
is put back and dequeued any number of times. -/
theorem requeued_for_ever : Bench.spec.maxAttempts = 1 ∧ ∀ count : Nat,
    ∃ (past : List SchedulerWorld.Taken) (world : SchedulerWorld),
      Transition.History (step Bench.config) Distinct {} past world ∧
      world.scheduler.records[0]?.map TaskRecord.spec = some Bench.spec ∧
      world.scheduler.records[0]?.map TaskRecord.attemptCount = some 0 ∧
      putBacks past 0 = count ∧ past.countP (dequeues Bench.spec.id) = count := by
  refine ⟨rfl, fun count => ?_⟩
  obtain ⟨past, published, history, put, dequeued⟩ := Bench.away_rounds count
  exact ⟨past, _, history, rfl, rfl, put, dequeued⟩

/-- The bounds at a run in which the one task of three attempts fails once. -/
theorem retries_bounded_retried : ∃ (past : List SchedulerWorld.Taken) (world : SchedulerWorld),
    putBacks past 0 = 1 ∧ ∃ record : TaskRecord, world.scheduler.records[0]? = some record ∧
      (putBacks past 0 : Int) < max 1 record.spec.maxAttempts ∧
      (past.countP (submits record.spec.id) ≤ 1 →
        (past.countP (dequeues record.spec.id) : Int) ≤ max 1 record.spec.maxAttempts) := by
  have passed : (Transition.trace (Transition.guarded (step Bench.config) Distinct) [] {}
      Bench.retriedOnce).any (fun reached => decide (putBacks reached.1 0 = 1 ∧
        reached.2.scheduler.records[0]?.isSome ∧
        ∀ taken ∈ reached.1, timesOut 0 taken = false)) = true := by
    decide +kernel
  obtain ⟨past, world, history, shown⟩ := Transition.traces passed
  obtain ⟨put, present, patient⟩ := of_decide_eq_true shown
  obtain ⟨record, known⟩ := Option.isSome_iff_exists.mp present
  exact ⟨past, world, put, record, known, retries_bounded history known patient⟩

end DeviceOrchestrator
