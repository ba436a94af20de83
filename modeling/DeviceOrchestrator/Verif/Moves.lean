import DeviceOrchestrator.Verif.Resubmission

/-!
# What becomes of one record

While ids are distinct and nothing raises, a record has at most one place: a token in the queue,
a sleeping retry, or one worker that answers for it (`Attended`). It has none once it has ended,
nor after an exception in `_requeue` or in the selector, so unlike custody this needs no tractable
specification. `Move` is what a worker does to its record from one await to the next, `deed` says
that every step is such a move, the taking of a token, a submission, or none of these, and
`stands_run` carries a property of one record and its holder over every such run.
-/
namespace DeviceOrchestrator

/-- What `_requeue` makes of a record, where its worker goes, and whether it is announced. -/
inductive Requeues (record : TaskRecord) (lease : Option Lease) :
    TaskRecord → Option Point → Bool → Prop
  /-- The attempts are used up. -/
  | exhausted (error : String) (spent : record.spec.maxAttempts ≤ record.attemptCount) :
      Requeues record lease
        { record with state := .failed, result := none, error := some error }
        (some (.failing lease)) true
  /-- A retry is due after a delay. -/
  | delayed (delay : Rat) (left : record.attemptCount < record.spec.maxAttempts) :
      Requeues record lease { record with state := .pending } (some (.requeueing lease delay)) true
  /-- The backoff overflows. -/
  | overflow (left : record.attemptCount < record.spec.maxAttempts) :
      Requeues record lease record (lease.map .releasing) false

/-- **What a worker does to its record** from one await to the next while nothing raises: the
await, what the target answered, the record afterwards, the next await and whether the record is
announced. -/
inductive Move (record : TaskRecord) :
    Point → Option Outcome → TaskRecord → Option Point → Bool → Prop
  /-- An attempt begins. -/
  | leased (lease : Lease) :
      Move record .acquiring none
        { record with
          attempts := record.attempts ++
            [{ number := record.attemptCount + 1, deviceId := lease.deviceId }]
          state := .running }
        (some (.starting lease record.attemptCount)) true
  /-- No lease in time. -/
  | timedOut {new : TaskRecord} {next : Option Point} {announced : Bool}
      (went : Requeues record none new next announced) :
      Move record .acquiring none new next announced
  /-- The selector cannot be evaluated. -/
  | unevaluated : Move record .acquiring none record none false
  /-- ABANDONED was announced. -/
  | abandoned : Move record .abandoning none record none false
  /-- RUNNING was announced. -/
  | started (lease : Lease) (attempt : Nat) :
      Move record (.starting lease attempt) none record (some (.executing lease attempt)) false
  /-- PENDING was announced and the retry is created. -/
  | created (lease : Option Lease) (delay : Rat) :
      Move record (.requeueing lease delay) none record (lease.map .releasing) false
  /-- FAILED was announced. -/
  | failed (lease : Option Lease) :
      Move record (.failing lease) none record (lease.map .releasing) false
  /-- The `finally` has announced the record. -/
  | announced : Move record .announcing none record none false
  /-- The target returned. -/
  | succeeded (lease : Lease) (attempt : Nat) (value : Json) :
      Move record (.executing lease attempt) (some (.result value))
        { record.endAttempt attempt none with
          state := .succeeded, result := some value, error := none }
        (some (.releasing lease)) false
  /-- The work itself is wrong. -/
  | rejected (lease : Lease) (attempt : Nat) (message : String) :
      Move record (.executing lease attempt) (some (.fatal message))
        { record.endAttempt attempt (some message) with
          state := .rejected, result := none, error := some message }
        (some (.releasing lease)) false
  /-- A failure that blames a device which is ONLINE. -/
  | blamed (lease : Lease) (attempt : Nat) (outcome : Outcome) (fails : outcome.fails = true)
      (message reason : String) :
      Move record (.executing lease attempt) (some outcome)
        (record.endAttempt attempt (some message)) (some (.quarantining lease reason)) false
  /-- Any other failure. -/
  | requeued (lease : Lease) (attempt : Nat) (outcome : Outcome) (fails : outcome.fails = true)
      (message : String) {new : TaskRecord} {next : Option Point} {announced : Bool}
      (went : Requeues (record.endAttempt attempt (some message)) (some lease) new next
        announced) :
      Move record (.executing lease attempt) (some outcome) new next announced
  /-- The device was marked. -/
  | quarantined (lease : Lease) (reason : String) {new : TaskRecord} {next : Option Point}
      {announced : Bool} (went : Requeues record (some lease) new next announced) :
      Move record (.quarantining lease reason) none new next announced
  /-- The lease is released while the record waits. -/
  | releasedQuietly (lease : Lease) (pending : record.state = .pending) :
      Move record (.releasing lease) none record none false
  /-- The lease is released and the record announced. -/
  | released (lease : Lease) (settled : record.state ≠ .pending) :
      Move record (.releasing lease) none record (some .announcing) true

/-- What a worker does with a record whose token it takes. -/
inductive Entry (record : TaskRecord) : TaskRecord → Option Point → Bool → Prop
  /-- It leaves the record alone: the record is skipped or its selector cannot be evaluated. -/
  | left : Entry record record none false
  /-- No device can ever match. -/
  | abandoned (error : Option String) :
      Entry record { record with state := .abandoned, result := none, error := error }
        (some .abandoning) true
  /-- A device may match. -/
  | acquiring : Entry record record (some .acquiring) false

/-- A worker inside a call on a record, or back at the queue. -/
def Worker.within (index : Nat) : Option Point → Worker
  | none => .idle
  | some point => .busy index point

/-- The await at which a worker still answers for its record. -/
def Point.held (next : Option Point) : Option Point := next.filter Point.active

/-- What the target answered to a worker. -/
def SchedulerAction.outcome? (worker : Nat) : SchedulerAction → Option Outcome
  | .executed other outcome _ => if other = worker then some outcome else none
  | _ => none

variable {record new : TaskRecord} {point : Point} {outcome : Option Outcome}
variable {next : Option Point} {announced : Bool} {lease : Option Lease}

/-- Letting a lease go answers for nothing. -/
theorem Point.held_releasing (lease : Option Lease) :
    Point.held (lease.map .releasing) = none := by
  cases lease <;> rfl

/-- `_requeue` keeps the specification and the attempts. -/
theorem Requeues.kept (went : Requeues record lease new next announced) :
    new.spec = record.spec ∧ new.attempts = record.attempts := by
  cases went <;> exact ⟨rfl, rfl⟩

/-- A worker answers for the record after `_requeue` only to announce PENDING. -/
theorem Requeues.expects (went : Requeues record lease new next announced) :
    (∀ place, Point.held next = some place → new.state = place.expects) ∧
      (new.state.terminal = true → Point.held next = none) := by
  cases went with
  | exhausted error spent => exact ⟨nofun, fun _ => rfl⟩
  | delayed delay left =>
    refine ⟨?_, nofun⟩
    rintro place ⟨⟩
    rfl
  | overflow left =>
    rw [Point.held_releasing]
    exact ⟨nofun, fun _ => rfl⟩

namespace Move

/-- A move keeps the specification. -/
theorem spec (move : Move record point outcome new next announced) : new.spec = record.spec := by
  cases move with
  | timedOut went | quarantined lease reason went => exact went.kept.1
  | requeued lease attempt outcome fails message went => exact went.kept.1
  | _ => rfl

/-- A worker that no longer answers for its record leaves it alone. -/
theorem idle (move : Move record point outcome new next announced)
    (free : point.active = false) :
    new = record ∧ Point.held next = none ∧ point.requeues = false := by
  cases move with
  | abandoned | announced => exact ⟨rfl, rfl, rfl⟩
  | failed lease => exact ⟨rfl, Point.held_releasing lease, rfl⟩
  | releasedQuietly lease pending => exact ⟨rfl, rfl, rfl⟩
  | released lease settled => exact ⟨rfl, rfl, rfl⟩
  | _ => cases free

/-- A worker that goes on answering for its record finds it in the state that the next await
expects, and lets it go when it has ended. -/
theorem expects (move : Move record point outcome new next announced)
    (active : point.active = true) (phase : record.state = point.expects) :
    (∀ place, Point.held next = some place → new.state = place.expects) ∧
      (new.state.terminal = true → Point.held next = none) := by
  have live : record.state.terminal = false := by
    rw [phase]
    exact point.expects_live
  cases move with
  | leased lease =>
    refine ⟨?_, nofun⟩
    rintro place ⟨⟩
    rfl
  | timedOut went | quarantined lease reason went => exact went.expects
  | requeued lease attempt outcome fails message went => exact went.expects
  | unevaluated => exact ⟨nofun, fun _ => rfl⟩
  | started lease attempt =>
    refine ⟨?_, fun ended => by rw [live] at ended; cases ended⟩
    rintro place ⟨⟩
    exact phase
  | created lease delay =>
    rw [Point.held_releasing]
    exact ⟨nofun, fun _ => rfl⟩
  | succeeded lease attempt value => exact ⟨nofun, fun _ => rfl⟩
  | rejected lease attempt message => exact ⟨nofun, fun _ => rfl⟩
  | blamed lease attempt outcome fails message reason =>
    refine ⟨?_, fun ended => ?_⟩
    · rintro place ⟨⟩
      exact phase
    · have kept : record.state.terminal = true := ended
      rw [live] at kept
      cases kept
  | abandoned | failed | announced | releasedQuietly | released => cases active

/-- The worker that creates the retry lets its record go as it is. -/
theorem requeues (move : Move record point outcome new next announced)
    (requeues : point.requeues = true) : new = record ∧ Point.held next = none := by
  cases move with
  | created lease delay => exact ⟨rfl, Point.held_releasing lease⟩
  | _ => cases requeues

end Move

namespace Scheduler

/-- The places of a record: tokens of its id and workers that answer for it. -/
def places (scheduler : Scheduler) (taskId : TaskId) (index : Nat) : Nat :=
  scheduler.tokens taskId + scheduler.workers.countP (Worker.holds index)

/-- Every record has at most one place, and none once it has ended. -/
structure Attended (scheduler : Scheduler) : Prop where
  /-- An id names its record. -/
  named : ∀ (index : Nat) (record : TaskRecord), scheduler.records[index]? = some record →
    scheduler.table record.spec.id = some index
  /-- A token is one of a record. -/
  known : ∀ taskId, scheduler.tokens taskId ≠ 0 → ∃ index, scheduler.table taskId = some index
  /-- A record has at most one place. -/
  alone : ∀ (index : Nat) (record : TaskRecord), scheduler.records[index]? = some record →
    scheduler.places record.spec.id index ≤ 1
  /-- A record that has ended has none. -/
  ended : ∀ (index : Nat) (record : TaskRecord), scheduler.records[index]? = some record →
    record.state.terminal = true → scheduler.places record.spec.id index = 0
  /-- A worker that answers for a record finds it in the state that its await expects. -/
  expected : ∀ (worker index : Nat) (point : Point) (record : TaskRecord),
    scheduler.workers[worker]? = some (.busy index point) → point.active = true →
    scheduler.records[index]? = some record → record.state = point.expects
  /-- A record with a token waits. -/
  waits : ∀ (index : Nat) (record : TaskRecord), scheduler.records[index]? = some record →
    scheduler.tokens record.spec.id ≠ 0 → record.state = .pending

end Scheduler

/-- A worker inside a call holds its record where the next await answers for it. -/
theorem Worker.holds_within (index other : Nat) (next : Option Point) :
    (Worker.within index next).holds other = ((Point.held next).isSome && index == other) := by
  cases next with
  | none => rfl
  | some point => cases active : point.active <;> simp [within, holds, Point.held, active]

/-- A worker inside a call that answers for its record is at that await. -/
theorem Worker.within_busy {index held : Nat} {next : Option Point} {point : Point}
    (busy : .busy held point = Worker.within index next) (active : point.active = true) :
    held = index ∧ Point.held next = some point := by
  cases next with
  | none => cases busy
  | some place =>
    cases busy
    exact ⟨rfl, by simp [Point.held, active]⟩

namespace Scheduler

section
variable {scheduler after : Scheduler} {worker index : Nat} {record new : TaskRecord}
variable {next : Option Point}

/-- Two records of one id are one. -/
theorem Attended.unique (attended : scheduler.Attended) {other : Nat} {record' : TaskRecord}
    (known : scheduler.records[index]? = some record)
    (known' : scheduler.records[other]? = some record')
    (same : record.spec.id = record'.spec.id) : index = other := by
  have named := attended.named index record known
  rw [same, attended.named other record' known'] at named
  exact (Option.some.inj named).symm

/-- The holders of a record once a worker has moved. -/
theorem holders_within {old : Worker} (found : scheduler.workers[worker]? = some old)
    (workers : after.workers = scheduler.workers.set worker (.within index next))
    (other : Nat) :
    after.workers.countP (Worker.holds other) + (old.holds other).toNat =
      scheduler.workers.countP (Worker.holds other) +
        ((Point.held next).isSome && index == other).toNat := by
  have exchanged := Slots.countP_set (Worker.holds other) found (.within index next)
  rw [workers]
  simpa only [Worker.holds_within, Slots.ite_toNat] using exchanged

/-- **One worker moves on one record.** The record keeps at most one place if it gains none, and
has none when it ends. -/
theorem Attended.moved (attended : scheduler.Attended) {old : Worker} {count : Nat}
    (found : scheduler.workers[worker]? = some old)
    (others : ∀ other, other ≠ index → old.holds other = false)
    (known : scheduler.records[index]? = some record) (spec : new.spec = record.spec)
    (table : after.table = scheduler.table)
    (records : after.records = scheduler.records.set index new)
    (workers : after.workers = scheduler.workers.set worker (.within index next))
    (tokens : after.tokens = Function.update scheduler.tokens record.spec.id count)
    (balance : count + (Point.held next).toList.length ≤
      scheduler.tokens record.spec.id + (old.holds index).toNat)
    (ends : new.state.terminal = true → record.state.terminal = true ∨
      count + (Point.held next).toList.length <
        scheduler.tokens record.spec.id + (old.holds index).toNat)
    (expects : ∀ place, Point.held next = some place → new.state = place.expects)
    (sole : new = record ∨ scheduler.tokens record.spec.id ≠ 0 ∨ old.holds index = true)
    (waits : count ≠ 0 → new.state = .pending) : after.Attended := by
  obtain ⟨bound, -⟩ := List.getElem?_eq_some_iff.mp known
  have own : after.places record.spec.id index + (scheduler.tokens record.spec.id +
      (old.holds index).toNat) = scheduler.places record.spec.id index +
        (count + (Point.held next).toList.length) := by
    have exchanged := holders_within found workers index
    have size : ((Point.held next).isSome && index == index).toNat =
        (Point.held next).toList.length := by
      cases Point.held next <;> simp
    rw [size] at exchanged
    simp only [places, tokens, Function.update_self]
    omega
  have apart : ∀ (other : Nat) (record' : TaskRecord), other ≠ index →
      scheduler.records[other]? = some record' →
      after.tokens record'.spec.id = scheduler.tokens record'.spec.id ∧
        after.places record'.spec.id other = scheduler.places record'.spec.id other := by
    intro other record' elsewhere known'
    have ids : record'.spec.id ≠ record.spec.id := fun same =>
      elsewhere (attended.unique known' known same)
    have exchanged := holders_within found workers other
    have free : ((Point.held next).isSome && index == other).toNat = 0 := by
      simp [Ne.symm elsewhere]
    rw [others other elsewhere, free] at exchanged
    have kept : after.tokens record'.spec.id = scheduler.tokens record'.spec.id := by
      rw [tokens, Function.update_of_ne ids]
    refine ⟨kept, ?_⟩
    simp only [places, kept]
    simp only [Bool.toNat_false, Nat.add_zero] at exchanged
    rw [exchanged]
  have alone := attended.alone index record known
  constructor
  case named =>
    intro other record' known'
    rw [records] at known'
    rw [table]
    rcases Slots.getElem?_rewritten known' with ⟨rfl, rfl⟩ | ⟨elsewhere, earlier⟩
    · rw [spec]
      exact attended.named other record known
    · exact attended.named other record' earlier
  case known =>
    intro taskId waiting
    rw [table]
    by_cases same : taskId = record.spec.id
    · subst same
      exact ⟨index, attended.named index record known⟩
    · rw [tokens, Function.update_of_ne same] at waiting
      exact attended.known taskId waiting
  case alone =>
    intro other record' known'
    rw [records] at known'
    rcases Slots.getElem?_rewritten known' with ⟨rfl, rfl⟩ | ⟨elsewhere, earlier⟩
    · rw [spec]
      omega
    · rw [(apart other record' elsewhere earlier).2]
      exact attended.alone other record' earlier
  case ended =>
    intro other record' known' ended
    rw [records] at known'
    rcases Slots.getElem?_rewritten known' with ⟨rfl, rfl⟩ | ⟨elsewhere, earlier⟩
    · rw [spec]
      rcases ends ended with before | fewer
      · have none := attended.ended other record known before
        omega
      · omega
    · rw [(apart other record' elsewhere earlier).2]
      exact attended.ended other record' earlier ended
  case expected =>
    intro other held point record' busy active known'
    rw [workers] at busy
    rw [records] at known'
    rcases Slots.getElem?_rewritten busy with ⟨-, moved⟩ | ⟨elsewhere, earlier⟩
    · obtain ⟨rfl, place⟩ := Worker.within_busy moved active
      rcases Slots.getElem?_rewritten known' with ⟨-, rfl⟩ | ⟨impossible, -⟩
      · exact expects point place
      · exact absurd rfl impossible
    · rcases Slots.getElem?_rewritten known' with ⟨rfl, rfl⟩ | ⟨-, known'⟩
      · simp only [places] at alone
        rcases sole with rfl | waiting | held'
        · exact attended.expected other held point _ earlier active known
        · have positive := holders_pos earlier active
          omega
        · exact absurd (Slots.slot_unique (by omega) earlier (holds_busy active) found held')
            elsewhere
      · exact attended.expected other held point record' earlier active known'
  case waits =>
    intro other record' known' waiting
    rw [records] at known'
    rcases Slots.getElem?_rewritten known' with ⟨rfl, rfl⟩ | ⟨elsewhere, earlier⟩
    · rw [spec, tokens, Function.update_self] at waiting
      exact waits waiting
    · rw [(apart other record' elsewhere earlier).1] at waiting
      exact attended.waits other record' earlier waiting

/-- Setting `_idle` publishes nothing. -/
@[simp]
theorem published_settleIdle (scheduler : Scheduler) :
    scheduler.settleIdle.published = scheduler.published := by
  unfold settleIdle
  split <;> rfl

/-- Leaving a call publishes nothing. -/
@[simp]
theorem published_leave (scheduler : Scheduler) (worker : Nat) :
    (scheduler.leave worker).published = scheduler.published := by
  simp [leave, place]

/-- A call that unwinds releases its lease first, if it has one. -/
theorem unwind_view (scheduler : Scheduler) (worker index : Nat) (lease : Option Lease) :
    (scheduler.unwind worker index lease).workers =
        scheduler.workers.set worker (.within index (lease.map .releasing)) ∧
      (scheduler.unwind worker index lease).published = scheduler.published ∧
      (scheduler.unwind worker index lease).tokens = scheduler.tokens := by
  cases lease with
  | none => exact ⟨workers_leave _ _, published_leave _ _, by funext; simp [unwind, tokens]⟩
  | some lease => exact ⟨rfl, rfl, rfl⟩

/-- **`_requeue` works on one record.** -/
theorem Requeue.view {lease : Option Lease}
    (known : scheduler.records[index]? = some record)
    (went : Requeue scheduler worker index record lease after) :
    ∃ new next announced, Requeues record lease new next announced ∧
      after.table = scheduler.table ∧ after.records = scheduler.records.set index new ∧
      after.workers = scheduler.workers.set worker (.within index next) ∧
      after.tokens = scheduler.tokens ∧
      after.published = scheduler.published ++ if announced then [new.event] else [] := by
  cases went with
  | exhausted error spent =>
    exact ⟨_, _, _, .exhausted error spent, rfl, rfl, rfl, rfl, rfl⟩
  | delayed delay left small => exact ⟨_, _, _, .delayed delay left, rfl, rfl, rfl, rfl, rfl⟩
  | overflow left large =>
    obtain ⟨workers, published, tokens⟩ := scheduler.unwind_view worker index lease
    obtain ⟨bound, rfl⟩ := List.getElem?_eq_some_iff.mp known
    exact ⟨_, _, _, .overflow left, table_unwind _ _ _ _, by simp, workers, tokens,
      by simp [published]⟩

end

end Scheduler

namespace SchedulerWorld

open Scheduler

/-- **What one step is to the records**, while ids are distinct and nothing raises. -/
inductive Deed (world : SchedulerWorld) (action : SchedulerAction) (after : SchedulerWorld) :
    Prop
  /-- A worker goes on with its record. -/
  | works (worker index : Nat) (point : Point) (record new : TaskRecord) (next : Option Point)
      (announced : Bool)
      (busy : world.scheduler.workers[worker]? = some (.busy index point))
      (known : world.scheduler.records[index]? = some record)
      (move : Move record point (action.outcome? worker) new next announced)
      (table : after.scheduler.table = world.scheduler.table)
      (records : after.scheduler.records = world.scheduler.records.set index new)
      (workers : after.scheduler.workers =
        world.scheduler.workers.set worker (.within index next))
      (tokens : after.scheduler.tokens = if point.requeues
        then Function.update world.scheduler.tokens record.spec.id
          (world.scheduler.tokens record.spec.id + 1)
        else world.scheduler.tokens)
      (published : after.scheduler.published = world.scheduler.published ++
        if announced then [new.event] else [])
      (sole : ∀ other, other ≠ worker → action.outcome? other = none)
      (release : ∀ lease, point = .releasing lease → action = .released worker)
  /-- A worker takes the token of a record. -/
  | takes (worker index : Nat) (record new : TaskRecord) (next : Option Point)
      (announced : Bool) (idle : world.scheduler.workers[worker]? = some .idle)
      (waits : world.scheduler.tokens record.spec.id ≠ 0)
      (known : world.scheduler.records[index]? = some record)
      (entry : Entry record new next announced)
      (table : after.scheduler.table = world.scheduler.table)
      (records : after.scheduler.records = world.scheduler.records.set index new)
      (workers : after.scheduler.workers =
        world.scheduler.workers.set worker (.within index next))
      (tokens : after.scheduler.tokens = Function.update world.scheduler.tokens record.spec.id
        (world.scheduler.tokens record.spec.id - 1))
      (published : after.scheduler.published = world.scheduler.published ++
        if announced then [new.event] else [])
      (silent : ∀ worker, action.outcome? worker = none)
  /-- A specification is submitted. -/
  | submits (new : TaskRecord) (unused : new.attempts = [])
      (fresh : world.scheduler.table new.spec.id = none)
      (accepted : (new.state = .pending ∧ after.scheduler.tokens =
          Function.update world.scheduler.tokens new.spec.id
            (world.scheduler.tokens new.spec.id + 1)) ∨
        (new.state = .rejected ∧ after.scheduler.tokens = world.scheduler.tokens))
      (table : after.scheduler.table = Function.update world.scheduler.table new.spec.id
        (some world.scheduler.records.length))
      (records : after.scheduler.records = world.scheduler.records ++ [new])
      (workers : after.scheduler.workers = world.scheduler.workers)
      (published : after.scheduler.published = world.scheduler.published)
      (silent : ∀ worker, action.outcome? worker = none)
  /-- No record, no token and no worker inside a call changes. -/
  | rest (table : after.scheduler.table = world.scheduler.table)
      (records : after.scheduler.records = world.scheduler.records)
      (workers : ∀ (worker index : Nat) (point : Point),
        after.scheduler.workers[worker]? = some (.busy index point) ↔
          world.scheduler.workers[worker]? = some (.busy index point))
      (holders : ∀ index, after.scheduler.workers.countP (Worker.holds index) =
        world.scheduler.workers.countP (Worker.holds index))
      (tokens : after.scheduler.tokens = world.scheduler.tokens)
      (published : after.scheduler.published = world.scheduler.published)
      (silent : ∀ worker, action.outcome? worker = none)

variable {config : SchedulerConfig} {world after : SchedulerWorld} {action : SchedulerAction}

/-- A worker that goes on with its record. -/
theorem Deed.works_attended (attended : world.scheduler.Attended) {worker index : Nat}
    {point : Point} {record new : TaskRecord} {outcome : Option Outcome} {next : Option Point}
    {announced : Bool} {scheduler : Scheduler}
    (busy : world.scheduler.workers[worker]? = some (.busy index point))
    (known : world.scheduler.records[index]? = some record)
    (move : Move record point outcome new next announced)
    (table : scheduler.table = world.scheduler.table)
    (records : scheduler.records = world.scheduler.records.set index new)
    (workers : scheduler.workers = world.scheduler.workers.set worker (.within index next))
    (tokens : scheduler.tokens = if point.requeues
      then Function.update world.scheduler.tokens record.spec.id
        (world.scheduler.tokens record.spec.id + 1)
      else world.scheduler.tokens) : scheduler.Attended := by
  have others : ∀ other, other ≠ index → (Worker.busy index point).holds other = false := by
    intro other elsewhere
    simp [Worker.holds, Ne.symm elsewhere]
  have counted : scheduler.tokens = Function.update world.scheduler.tokens record.spec.id
      (world.scheduler.tokens record.spec.id + point.requeues.toNat) := by
    rw [tokens]
    cases point.requeues <;> simp
  have holds : (Worker.busy index point).holds index = point.active := by
    simp [Worker.holds]
  cases active : point.active with
  | false =>
    obtain ⟨rfl, free, quiet⟩ := move.idle active
    refine attended.moved busy others known rfl table records workers counted ?_ .inl ?_
      (.inl rfl) ?_
    · simp [free, quiet]
    · simp [free]
    · rw [quiet]
      exact attended.waits index new known
  | true =>
    have phase := attended.expected worker index point record busy active known
    obtain ⟨expects, leaves⟩ := move.expects active phase
    have alone := attended.alone index record known
    have positive := holders_pos busy active
    have empty : world.scheduler.tokens record.spec.id = 0 := by
      simp only [places] at alone
      omega
    have created : point.requeues = true → new.state = .pending ∧ Point.held next = none := by
      intro requeues
      obtain ⟨rfl, free⟩ := move.requeues requeues
      refine ⟨phase.trans ?_, free⟩
      cases point <;> first | rfl | cases requeues
    refine attended.moved busy others known move.spec table records workers counted ?_ ?_ expects
      (.inr (.inr (holds.trans active))) ?_
    · rw [empty, holds, active]
      cases requeues : point.requeues with
      | false => cases Point.held next <;> simp
      | true => simp [(created requeues).2]
    · intro ended
      refine .inr ?_
      rw [empty, holds, active, leaves ended]
      cases requeues : point.requeues with
      | false => simp
      | true =>
        rw [(created requeues).1] at ended
        cases ended
    · intro left
      cases requeues : point.requeues with
      | false => simp [empty, requeues] at left
      | true => exact (created requeues).1

/-- A new record has one place if it is accepted, and none otherwise. -/
theorem Deed.submits_attended (attended : world.scheduler.Attended)
    (accounted : world.scheduler.Accounted) {new : TaskRecord} {scheduler : Scheduler}
    (fresh : world.scheduler.table new.spec.id = none)
    (accepted : (new.state = .pending ∧ scheduler.tokens =
        Function.update world.scheduler.tokens new.spec.id
          (world.scheduler.tokens new.spec.id + 1)) ∨
      (new.state = .rejected ∧ scheduler.tokens = world.scheduler.tokens))
    (table : scheduler.table = Function.update world.scheduler.table new.spec.id
      (some world.scheduler.records.length))
    (records : scheduler.records = world.scheduler.records ++ [new])
    (workers : scheduler.workers = world.scheduler.workers) : scheduler.Attended := by
  have empty : world.scheduler.tokens new.spec.id = 0 := by
    by_contra waiting
    obtain ⟨index, named⟩ := attended.known _ waiting
    rw [fresh] at named
    cases named
  have elsewhere : ∀ {other : Nat} {record : TaskRecord},
      world.scheduler.records[other]? = some record → record.spec.id ≠ new.spec.id := by
    intro other record known same
    have named := attended.named other record known
    rw [same, fresh] at named
    cases named
  have free : world.scheduler.workers.countP
      (Worker.holds world.scheduler.records.length) = 0 := by
    refine List.countP_eq_zero.mpr fun held member holding => ?_
    cases held with
    | idle | exited => simp [Worker.holds] at holding
    | busy index point =>
      have bound := accounted.inRange index point member
      simp only [Worker.holds, Bool.and_eq_true, beq_iff_eq] at holding
      omega
  have others : ∀ taskId, taskId ≠ new.spec.id →
      scheduler.tokens taskId = world.scheduler.tokens taskId := by
    intro taskId apart
    rcases accepted with ⟨-, tokens⟩ | ⟨-, tokens⟩
    · rw [tokens, Function.update_of_ne apart]
    · rw [tokens]
  have kept : ∀ {other : Nat} {record : TaskRecord},
      world.scheduler.records[other]? = some record →
      scheduler.places record.spec.id other =
        world.scheduler.places record.spec.id other := by
    intro other record known
    simp only [places, workers, others _ (elsewhere known)]
  constructor
  case named =>
    intro other record known
    rw [records] at known
    rw [table]
    rcases Slots.getElem?_concat known with ⟨rfl, rfl⟩ | ⟨-, earlier⟩
    · simp
    · rw [Function.update_of_ne (elsewhere earlier)]
      exact attended.named other record earlier
  case known =>
    intro taskId waiting
    rw [table]
    by_cases same : taskId = new.spec.id
    · subst same
      exact ⟨_, Function.update_self _ _ _⟩
    · rw [others taskId same] at waiting
      obtain ⟨index, named⟩ := attended.known taskId waiting
      exact ⟨index, by rwa [Function.update_of_ne same]⟩
  case alone =>
    intro other record known
    rw [records] at known
    rcases Slots.getElem?_concat known with ⟨rfl, rfl⟩ | ⟨-, earlier⟩
    · simp only [places, workers, free]
      rcases accepted with ⟨-, tokens⟩ | ⟨-, tokens⟩ <;> simp [tokens, empty]
    · rw [kept earlier]
      exact attended.alone other record earlier
  case ended =>
    intro other record known ended
    rw [records] at known
    rcases Slots.getElem?_concat known with ⟨rfl, rfl⟩ | ⟨-, earlier⟩
    · rcases accepted with ⟨pending, -⟩ | ⟨-, tokens⟩
      · rw [pending] at ended
        cases ended
      · simp only [places, workers, free, tokens, empty]
    · rw [kept earlier]
      exact attended.ended other record earlier ended
  case expected =>
    intro worker other point record busy active known
    rw [workers] at busy
    rw [records] at known
    rcases Slots.getElem?_concat known with ⟨rfl, -⟩ | ⟨-, earlier⟩
    · have positive := holders_pos busy active
      omega
    · exact attended.expected worker other point record busy active earlier
  case waits =>
    intro other record known waiting
    rw [records] at known
    rcases Slots.getElem?_concat known with ⟨rfl, rfl⟩ | ⟨-, earlier⟩
    · rcases accepted with ⟨pending, -⟩ | ⟨-, tokens⟩
      · exact pending
      · rw [tokens] at waiting
        exact absurd empty waiting
    · rw [others _ (elsewhere earlier)] at waiting
      exact attended.waits other record earlier waiting

/-- **Every step keeps each record at one place.** -/
theorem attended_step (attended : world.scheduler.Attended) (accounted : world.scheduler.Accounted)
    (deed : Deed world action after) : after.scheduler.Attended := by
  cases deed with
  | works worker index point record new next announced busy known move table records workers
      tokens published sole release =>
    exact Deed.works_attended attended busy known move table records workers tokens
  | takes worker index record new next announced idle waits known entry table records workers
      tokens published silent =>
    have one : world.scheduler.tokens record.spec.id = 1 := by
      have alone := attended.alone index record known
      simp only [places] at alone
      omega
    have pending := attended.waits index record known waits
    refine attended.moved idle (fun _ _ => rfl) known ?_ table records workers tokens ?_ ?_ ?_
      (.inr (.inl waits)) ?_
    · cases entry <;> rfl
    · rw [one]
      cases Point.held next <;> simp
    · intro ended
      refine .inr ?_
      rw [one]
      cases entry with
      | abandoned error => exact Nat.zero_lt_one
      | left | acquiring =>
        rw [pending] at ended
        cases ended
    · cases entry with
      | acquiring =>
        rintro place ⟨⟩
        exact pending
      | left | abandoned error => exact nofun
    · rw [one]
      exact fun left => absurd rfl left
  | submits new unused fresh accepted table records workers published silent =>
    exact Deed.submits_attended attended accounted fresh accepted table records workers
  | rest table records workers holders tokens published silent =>
    have same : ∀ taskId index, after.scheduler.places taskId index =
        world.scheduler.places taskId index := by
      intro taskId index
      simp only [places, holders, tokens]
    constructor
    case named =>
      rw [table, records]
      exact attended.named
    case known =>
      rw [table, tokens]
      exact attended.known
    case alone =>
      simp only [records, same]
      exact attended.alone
    case ended =>
      simp only [records, same]
      exact attended.ended
    case expected =>
      intro worker index point record busy active known
      rw [records] at known
      exact attended.expected worker index point record
        ((workers worker index point).mp busy) active known
    case waits =>
      rw [records, tokens]
      exact attended.waits

/-- A lease begins an attempt. -/
theorem deed_leased {worker token : Nat}
    (taken : step config world (.leased worker token) = some after) :
    Deed world (.leased worker token) after := by
  simp only [SchedulerWorld.step] at taken
  split at taken
  · rename_i index record found
    obtain ⟨busy, known⟩ := at?_eq_some.mp found
    split at taken
    · rename_i device free
      split at taken
      · cases taken
      · obtain rfl := Option.some.inj taken
        rw [startAttempt, announce_eq known]
        exact .works worker index .acquiring record _ _ true busy known
          (.leased ⟨device.id, token⟩) rfl rfl rfl rfl rfl (fun _ _ => rfl) (by simp)
    · cases taken
  · cases taken

/-- A token is taken. -/
theorem deed_take (attended : world.scheduler.Attended) (accounted : world.scheduler.Accounted)
    {worker : Nat} {taskId : TaskId} {rest : List (Option TaskId)}
    (idle : world.scheduler.workers[worker]? = some .idle)
    (head : world.scheduler.queue = some taskId :: rest) :
    Deed world (.take worker)
      (world.withScheduler (world.scheduler.takeTask world.registry worker taskId rest)) := by
  have waits : world.scheduler.tokens taskId ≠ 0 := by simp [tokens, head]
  obtain ⟨index, named⟩ := attended.known taskId waits
  obtain ⟨record, known, rfl⟩ := accounted.named taskId index named
  obtain ⟨bound, here⟩ := List.getElem?_eq_some_iff.mp known
  have left : Deed world (.take worker) (world.withScheduler (({ world.scheduler with
      queue := rest
      inflight := world.scheduler.inflight + 1 } : Scheduler).leave worker)) := by
    refine .takes worker index record record none false idle waits known .left
      (table_leave _ _) ?_ (workers_leave _ _) ?_ ?_ fun _ => rfl
    · simp [withScheduler, ← here]
    · exact tokens_dequeued head (queue_leave _ _) (retries_leave _ _)
    · simp [withScheduler]
  have same : ∀ {other : Nat} {record' : TaskRecord},
      world.scheduler.table record.spec.id = some other →
      world.scheduler.records[other]? = some record' → index = other ∧ record = record' := by
    intro other record' named' known'
    obtain rfl := Option.some.inj (named.symm.trans named')
    exact ⟨rfl, Option.some.inj (known.symm.trans known')⟩
  have went :=
    takeTask_cases world.registry worker record.spec.id rest world.scheduler
  generalize world.scheduler.takeTask world.registry worker record.spec.id rest = after at went ⊢
  cases went with
  | skipped skips => exact left
  | raised other record' error named' known' unskipped raised => exact left
  | abandoned other record' error named' known' unskipped =>
    obtain ⟨rfl, rfl⟩ := same named' known'
    exact .takes worker index record _ _ true idle waits known (.abandoned error) rfl rfl rfl
      (tokens_dequeued head rfl rfl) rfl fun _ => rfl
  | acquiring other record' named' known' unskipped =>
    obtain ⟨rfl, rfl⟩ := same named' known'
    exact .takes worker index record _ _ false idle waits known .acquiring rfl rfl rfl
      (tokens_dequeued head rfl rfl) rfl fun _ => rfl

/-- A sink returns. -/
theorem deed_sinkReturned {worker index : Nat} {point : Point} {record : TaskRecord}
    {scheduler : Scheduler} (busy : world.scheduler.workers[worker]? = some (.busy index point))
    (known : world.scheduler.records[index]? = some record)
    (went : world.scheduler.sinkReturned worker index record point = some scheduler) :
    Deed world (.sinkReturned worker) (world.withScheduler scheduler) := by
  obtain ⟨bound, here⟩ := List.getElem?_eq_some_iff.mp known
  cases point with
  | abandoning | announcing =>
    cases went
    refine .works worker index _ record record none false busy known ?_ (table_leave _ _) ?_
      (workers_leave _ _) ?_ ?_ (fun _ _ => rfl) (by simp)
    · constructor
    · simp [withScheduler, ← here]
    · funext
      simp [withScheduler, tokens, Point.requeues]
    · simp [withScheduler]
  | starting lease attempt =>
    cases went
    rw [place_eq known]
    exact .works worker index _ record record _ false busy known (.started lease attempt) rfl rfl
      rfl rfl rfl (fun _ _ => rfl) (by simp)
  | failing lease =>
    cases went
    obtain ⟨workers, published, tokens⟩ := world.scheduler.unwind_view worker index lease
    exact .works worker index _ record record _ false busy known (.failed lease)
      (table_unwind _ _ _ _) (by simp [withScheduler, ← here]) workers tokens
      (by simp [withScheduler, published]) (fun _ _ => rfl) (by simp)
  | requeueing lease delay =>
    cases went
    generalize counted : ({ world.scheduler with
      pendingRetries := world.scheduler.pendingRetries + 1
      idle := false
      retries := world.scheduler.retries ++ [Retry.mk record.spec.id delay] } : Scheduler) = middle
    obtain ⟨workers, published, tokens⟩ := middle.unwind_view worker index lease
    refine .works worker index _ record record _ false busy known (.created lease delay) ?_ ?_
      ?_ ?_ ?_ (fun _ _ => rfl) (by simp)
    · simp [withScheduler, ← counted]
    · simp [withScheduler, ← counted, ← here]
    · simp only [withScheduler, workers]
      rw [← counted]
    · have retries : middle.retries =
          world.scheduler.retries ++ [Retry.mk record.spec.id delay] := by
        rw [← counted]
      simp only [withScheduler, tokens, Point.requeues, if_true]
      exact tokens_created (by rw [← counted]) retries
    · simp only [withScheduler, published]
      rw [← counted]
      simp
  | acquiring | executing lease attempt | quarantining lease reason | releasing lease =>
    cases went

/-- A specification is submitted under a new id. -/
theorem deed_submit {spec : TaskSpec} {correlationId : String}
    (fresh : world.scheduler.table spec.id = none) :
    Deed world (.submit spec correlationId)
      (world.withScheduler (world.scheduler.submit config spec correlationId)) := by
  simp only [withScheduler, Scheduler.submit]
  split
  · exact .submits { spec := spec, correlationId := correlationId } rfl fresh
      (.inl ⟨rfl, tokens_queued rfl rfl⟩) rfl rfl rfl rfl fun _ => rfl
  · exact .submits { spec := spec, correlationId := correlationId, state := .rejected, error := _ }
      rfl fresh (.inr ⟨rfl, rfl⟩) rfl rfl rfl rfl fun _ => rfl

/-- A target ends. -/
theorem deed_executed {worker index attempt : Nat} {outcome : Outcome} {draw : Rat}
    {lease : Lease} {record : TaskRecord} {scheduler : Scheduler}
    (busy : world.scheduler.workers[worker]? = some (.busy index (.executing lease attempt)))
    (known : world.scheduler.records[index]? = some record)
    (went : Ended config world.registry world.scheduler worker index
      (record.endAttempt attempt (attemptError config record outcome)) lease outcome scheduler) :
    Deed world (.executed worker outcome draw) (world.withScheduler scheduler) := by
  obtain ⟨bound, -⟩ := List.getElem?_eq_some_iff.mp known
  have asked : (SchedulerAction.executed worker outcome draw).outcome? worker = some outcome := by
    simp [SchedulerAction.outcome?]
  have others : ∀ other, other ≠ worker →
      (SchedulerAction.executed worker outcome draw).outcome? other = none := by
    intro other apart
    simp [SchedulerAction.outcome?, Ne.symm apart]
  have failing : outcome.fails = true →
      ∃ message, attemptError config record outcome = some message := by
    cases outcome <;> first | exact fun _ => ⟨_, rfl⟩ | exact nofun
  cases went with
  | succeeded value =>
    exact .works worker index _ record _ _ false busy known
      (by rw [asked]; exact .succeeded lease attempt value) rfl rfl rfl rfl rfl others nofun
  | rejected message =>
    exact .works worker index _ record _ _ false busy known
      (by rw [asked]; exact .rejected lease attempt message) rfl rfl rfl rfl rfl others nofun
  | blamed outcome reason wired blames online =>
    have fails : outcome.fails = true := by
      cases outcome <;> first | rfl | cases blames
    obtain ⟨message, shown⟩ := failing fails
    rw [shown]
    exact .works worker index _ record _ _ false busy known
      (by rw [asked]; exact .blamed lease attempt outcome fails message reason) rfl rfl rfl rfl rfl
      others nofun
  | requeued outcome after fails excused went =>
    obtain ⟨message, shown⟩ := failing fails
    rw [shown] at went
    have entered : ({ world.scheduler with
        records := world.scheduler.records.set index (record.endAttempt attempt (some message)) } :
          Scheduler).records[index]? = some (record.endAttempt attempt (some message)) := by
      simp [bound]
    obtain ⟨new, next, announced, requeues, table, records, workers, tokens, published⟩ :=
      went.view entered
    refine .works worker index _ record new next announced busy known
      (by rw [asked]; exact .requeued lease attempt outcome fails message requeues) table ?_
      workers ?_ published others nofun
    · rw [withScheduler, records]
      exact List.set_set _
    · exact tokens

/-- **Every step is a deed**, while ids are distinct and nothing raises. -/
theorem deed (attended : world.scheduler.Attended) (accounted : world.scheduler.Accounted)
    (distinct : Distinct world action) (taken : step config world action = some after) :
    Deed world action after := by
  have requeued : ∀ {worker index : Nat} {point : Point} {record : TaskRecord}
      {lease : Option Lease} {scheduler : Scheduler},
      world.scheduler.workers[worker]? = some (.busy index point) →
      world.scheduler.records[index]? = some record →
      (∀ {new next announced}, Requeues record lease new next announced →
        Move record point (action.outcome? worker) new next announced) →
      point.requeues = false → (∀ other, other ≠ worker → action.outcome? other = none) →
      (∀ lease, point = .releasing lease → action = .released worker) →
      Requeue world.scheduler worker index record lease scheduler →
      Deed world action (world.withScheduler scheduler) := by
    intro worker index point record lease scheduler busy known move unrequeued sole release went
    obtain ⟨new, next, announced, requeues, table, records, workers, tokens, published⟩ :=
      went.view known
    exact .works worker index point record new next announced busy known (move requeues) table
      records workers (by simp [withScheduler, tokens, unrequeued]) published sole release
  cases step_effect taken with
  | submit spec correlationId => exact deed_submit distinct
  | start =>
    simp only [withScheduler, Scheduler.start]
    split
    · exact .rest rfl rfl (fun _ _ _ => Iff.rfl) (fun _ => rfl) rfl rfl fun _ => rfl
    · refine .rest rfl rfl ?_ ?_ rfl rfl fun _ => rfl
      · intro worker index point
        constructor
        · intro busy
          rcases Slots.getElem?_extended busy with earlier | fresh
          · exact earlier
          · cases List.eq_of_mem_replicate fresh
        · intro busy
          obtain ⟨inside, -⟩ := List.getElem?_eq_some_iff.mp busy
          exact (List.getElem?_append_left inside).trans busy
      · intro index
        simp [List.countP_append, List.countP_replicate, Worker.holds]
  | stop =>
    simp only [withScheduler, Scheduler.stop]
    split
    · exact .rest rfl rfl (fun _ _ _ => Iff.rfl) (fun _ => rfl) (tokens_pills rfl rfl) rfl
        fun _ => rfl
    · exact .rest rfl rfl (fun _ _ _ => Iff.rfl) (fun _ => rfl) rfl rfl fun _ => rfl
  | stopped call stopping =>
    exact .rest rfl rfl (fun _ _ _ => Iff.rfl) (fun _ => rfl) rfl rfl fun _ => rfl
  | pill worker rest idle head =>
    refine .rest rfl rfl ?_ ?_ ?_ rfl fun _ => rfl
    · intro other index point
      refine ⟨fun busy => ?_, fun busy => ?_⟩
      · rcases Slots.getElem?_rewritten busy with ⟨-, impossible⟩ | ⟨-, earlier⟩
        · cases impossible
        · exact earlier
      · have apart : worker ≠ other := by
          rintro rfl
          rw [idle] at busy
          cases busy
        simpa [withScheduler, place, List.getElem?_set_ne apart] using busy
    · have free : ∀ index, Worker.exited.holds index = Worker.idle.holds index := fun _ => rfl
      exact holders_set idle free
    · funext taskId
      simp [withScheduler, place, tokens, head]
  | take worker taskId rest idle head => exact deed_take attended accounted idle head
  | leased worker token index record device attempts busy known free fresh length =>
    exact deed_leased taken
  | leaseTimeout worker draw index record after busy known went =>
    exact requeued busy known .timedOut rfl (fun _ _ => rfl) (by simp) went
  | leaseError worker index record error busy known raised =>
    obtain ⟨bound, here⟩ := List.getElem?_eq_some_iff.mp known
    refine .works worker index _ record record none false busy known .unevaluated
      (table_leave _ _) (by simp [withScheduler, ← here]) (workers_leave _ _) ?_
      (by simp [withScheduler]) (fun _ _ => rfl) (by simp)
    funext
    simp [withScheduler, tokens, Point.requeues]
  | sinkReturned worker index point record after busy known went =>
    exact deed_sinkReturned busy known went
  | sinkRaised worker index point record after busy known went => exact distinct.elim
  | executed worker outcome draw index lease attempt record ended after busy known same went =>
    subst same
    exact deed_executed busy known went
  | quarantined worker draw index lease reason record after busy known went =>
    exact requeued busy known (.quarantined lease reason) rfl (fun _ _ => rfl) (by simp) went
  | quarantineRaised worker index lease reason record busy known => exact distinct.elim
  | releasedQuietly worker index lease record busy known pending =>
    obtain ⟨bound, here⟩ := List.getElem?_eq_some_iff.mp known
    refine .works worker index _ record record none false busy known
      (.releasedQuietly lease pending) (table_leave _ _) (by simp [← here]) (workers_leave _ _) ?_
      (by simp) (fun _ _ => rfl) fun _ _ => rfl
    funext
    simp [tokens, Point.requeues]
  | released worker index lease record busy known settled =>
    exact .works worker index _ record record _ true busy known (.released lease settled) rfl rfl
      rfl rfl rfl (fun _ _ => rfl) fun _ _ => rfl
  | retryDue position retry found =>
    refine .rest (by simp [withScheduler]) (by simp [withScheduler])
      (fun _ _ _ => by simp [withScheduler]) (fun _ => by simp [withScheduler]) ?_
      (by simp [withScheduler]) fun _ => rfl
    exact tokens_woken found (by simp [withScheduler]) (by simp [withScheduler])
  | others registry =>
    exact .rest rfl rfl (fun _ _ _ => Iff.rfl) (fun _ => rfl) rfl rfl fun _ => rfl

/-- Nothing is submitted at the start. -/
theorem attended_initial : ({} : Scheduler).Attended where
  named _ _ known := nomatch known
  known _ waiting := absurd rfl waiting
  alone _ _ known := nomatch known
  ended _ _ known := nomatch known
  expected _ _ _ _ busy := nomatch busy
  waits _ _ known := nomatch known

/-- **Every record keeps at one place** in runs in which ids are distinct and nothing raises. -/
theorem attended_run (run : Transition.Run (step config) Distinct {} world) :
    world.scheduler.Attended :=
  run.invariant (fun world => world.scheduler.Attended) attended_initial
    fun earlier attended distinct taken =>
      attended_step attended (accounted earlier)
        (deed attended (accounted earlier) distinct taken)

/-- **A record that has ended does not change.** -/
theorem deed_settled (attended : world.scheduler.Attended) (deed : Deed world action after)
    {index : Nat} {record : TaskRecord} (known : world.scheduler.records[index]? = some record)
    (ended : record.state.terminal = true) : after.scheduler.records[index]? = some record := by
  obtain ⟨bound, here⟩ := List.getElem?_eq_some_iff.mp known
  have free := attended.ended index record known ended
  simp only [places] at free
  cases deed with
  | works worker held point old new next announced busy there move table records workers tokens
      published sole release =>
    rw [records]
    by_cases same : held = index
    · subst same
      obtain rfl := Option.some.inj (known.symm.trans there)
      have inactive : point.active = false := by
        by_contra active
        have positive := holders_pos busy (Bool.of_not_eq_false active)
        omega
      rw [(move.idle inactive).1]
      simp [bound]
    · rwa [List.getElem?_set_ne same]
  | takes worker held old new next announced idle waits there entry table records workers tokens
      published silent =>
    rw [records]
    by_cases same : held = index
    · subst same
      obtain rfl := Option.some.inj (known.symm.trans there)
      omega
    · rwa [List.getElem?_set_ne same]
  | submits new unused fresh accepted table records workers published silent =>
    rw [records, List.getElem?_append_left bound]
    exact known
  | rest table records workers holders tokens published silent => rwa [records]

end SchedulerWorld

namespace Scheduler

/-- A property of a record and the await of the worker that answers for it, if there is one. -/
structure Stands (Fits : TaskRecord → Option Point → Prop) (scheduler : Scheduler) (index : Nat)
    (record : TaskRecord) : Prop where
  /-- A worker answers for the record. -/
  held : ∀ (worker : Nat) (point : Point),
    scheduler.workers[worker]? = some (.busy index point) → point.active = true →
    Fits record (some point)
  /-- No worker does. -/
  free : scheduler.workers.countP (Worker.holds index) = 0 → Fits record none

variable {Fits : TaskRecord → Option Point → Prop} {scheduler after : Scheduler}
variable {worker index : Nat} {record new : TaskRecord} {next : Option Point}

/-- The record of a worker that moved, when no other worker answers for it. -/
theorem Stands.moved {old : Worker} (found : scheduler.workers[worker]? = some old)
    (alone : scheduler.workers.countP (Worker.holds index) = (old.holds index).toNat)
    (workers : after.workers = scheduler.workers.set worker (.within index next))
    (fits : Fits new (Point.held next)) : Stands Fits after index new := by
  have exchanged := holders_within found workers index
  rw [alone, beq_self_eq_true, Bool.and_true] at exchanged
  constructor
  · intro other point busy active
    rw [workers] at busy
    rcases Slots.getElem?_rewritten busy with ⟨-, moved⟩ | ⟨apart, earlier⟩
    · rw [(Worker.within_busy moved active).2] at fits
      exact fits
    · have positive := holders_pos earlier active
      cases holds : old.holds index with
      | false =>
        rw [alone, holds] at positive
        exact absurd positive (Nat.lt_irrefl 0)
      | true =>
        rw [holds] at alone
        exact absurd (Slots.slot_unique (le_of_eq alone) earlier (holds_busy active) found holds)
          apart
  · intro free
    rw [free] at exchanged
    cases place : Point.held next with
    | none => rwa [place] at fits
    | some point =>
      rw [place] at exchanged
      cases holds : old.holds index <;> simp [holds] at exchanged

/-- A record that no moving worker answers for. -/
theorem Stands.aside (stands : Stands Fits scheduler index record)
    (workers : ∀ (worker : Nat) (point : Point), after.workers[worker]? = some (.busy index point) →
      point.active = true → scheduler.workers[worker]? = some (.busy index point))
    (holders : after.workers.countP (Worker.holds index) =
      scheduler.workers.countP (Worker.holds index)) : Stands Fits after index record :=
  ⟨fun worker point busy active => stands.held worker point (workers worker point busy active)
    active, fun free => stands.free (holders.symm.trans free)⟩

/-- A worker that moves without answering for a record leaves it standing. -/
theorem Stands.apart {old : Worker} {other : Nat} (stands : Stands Fits scheduler index record)
    (found : scheduler.workers[worker]? = some old) (free : old.holds index = false)
    (workers : after.workers = scheduler.workers.set worker (.within other next))
    (away : (Worker.within other next).holds index = false) :
    Stands Fits after index record := by
  refine stands.aside ?_ ?_
  · intro slot point busy active
    rw [workers] at busy
    rcases Slots.getElem?_rewritten busy with ⟨-, moved⟩ | ⟨-, earlier⟩
    · rw [← moved, holds_busy active] at away
      cases away
    · exact earlier
  · have exchanged := holders_within found workers index
    rw [← Worker.holds_within, free, away] at exchanged
    exact exchanged

end Scheduler

namespace SchedulerWorld

open Scheduler

variable {config : SchedulerConfig} {world : SchedulerWorld}

/-- **Rule for one record.** What holds of a new record, and is kept by every move of the worker
that answers for it and by every taking of its token, holds of every record and its holder. -/
theorem stands_run {Fits : TaskRecord → Option Point → Prop}
    (submitted : ∀ new : TaskRecord, new.attempts = [] →
      new.state = .pending ∨ new.state = .rejected → Fits new none)
    (entered : ∀ {record new next announced}, Entry record new next announced →
      record.state = .pending → Fits record none → Fits new (Point.held next))
    (moved : ∀ {record point outcome new next announced},
      Move record point outcome new next announced → point.active = true →
      record.state = point.expects → Fits record (some point) → Fits new (Point.held next))
    (run : Transition.Run (step config) Distinct {} world) :
    ∀ (index : Nat) (record : TaskRecord), world.scheduler.records[index]? = some record →
      Stands Fits world.scheduler index record := by
  refine run.invariant (fun world => ∀ (index : Nat) (record : TaskRecord),
    world.scheduler.records[index]? = some record → Stands Fits world.scheduler index record)
    (fun index record known => by simp at known) ?_
  intro state action next earlier stands distinct taken
  have attended := attended_run earlier
  intro index record known
  cases deed attended (accounted earlier) distinct taken with
  | works worker held point old new next announced busy there move table records workers tokens
      published sole release =>
    rw [records] at known
    have alone := attended.alone held old there
    simp only [places] at alone
    rcases Slots.getElem?_rewritten known with ⟨rfl, rfl⟩ | ⟨elsewhere, before⟩
    · cases active : point.active with
      | true =>
        have positive := holders_pos busy active
        refine Stands.moved busy ?_ workers (moved move active
          (attended.expected worker index point old busy active there)
          ((stands index old there).held worker point busy active))
        rw [holds_busy active, Bool.toNat_true]
        omega
      | false =>
        obtain ⟨rfl, away, -⟩ := move.idle active
        refine (stands index record there).apart busy (by simp [Worker.holds, active]) workers ?_
        simp [Worker.holds_within, away]
    · refine (stands index record before).apart busy ?_ workers ?_
      · simp [Worker.holds, Ne.symm elsewhere]
      · simp [Worker.holds_within, Ne.symm elsewhere]
  | takes worker held old new next announced idle waits there entry table records workers tokens
      published silent =>
    rw [records] at known
    have alone := attended.alone held old there
    simp only [places] at alone
    rcases Slots.getElem?_rewritten known with ⟨rfl, rfl⟩ | ⟨elsewhere, before⟩
    · have free : state.scheduler.workers.countP (Worker.holds index) = 0 := by omega
      exact Stands.moved idle free workers (entered entry (attended.waits index old there waits)
        ((stands index old there).free free))
    · refine (stands index record before).apart idle rfl workers ?_
      simp [Worker.holds_within, Ne.symm elsewhere]
  | submits new unused fresh accepted table records workers published silent =>
    rw [records] at known
    rcases Slots.getElem?_concat known with ⟨rfl, rfl⟩ | ⟨-, before⟩
    · refine ⟨fun worker point busy active => ?_, fun _ => submitted record unused ?_⟩
      · rw [workers] at busy
        have bound := (accounted earlier).inRange _ point (List.mem_of_getElem? busy)
        exact absurd bound (Nat.lt_irrefl _)
      · rcases accepted with ⟨pending, -⟩ | ⟨refused, -⟩
        · exact .inl pending
        · exact .inr refused
    · refine (stands index record before).aside (fun worker point busy _ => ?_) (by rw [workers])
      rwa [workers] at busy
  | rest table records workers holders tokens published silent =>
    rw [records] at known
    exact (stands index record known).aside
      (fun worker point busy _ => (workers worker index point).mp busy) (holders index)

end SchedulerWorld

end DeviceOrchestrator
