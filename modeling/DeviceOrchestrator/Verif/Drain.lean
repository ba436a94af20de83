import DeviceOrchestrator.Verif.Backoff

/-!
# Draining the scheduler

With distinct ids, and a sink and a health monitor that do not raise, a record can still be lost
in two ways: its selector cannot be evaluated, or the backoff of its next attempt overflows.
Where neither can happen every record is carried until it has ended, and `_idle` is set only
when every record has ended.
-/
namespace DeviceOrchestrator

namespace SchedulerWorld

open Scheduler

variable {config : SchedulerConfig} {world after : SchedulerWorld} {action : SchedulerAction}

/-- Every record is the one its id names. -/
def Indexed (scheduler : Scheduler) : Prop :=
  ∀ index record, scheduler.records[index]? = some record →
    scheduler.table record.spec.id = some index

/-- Distinct submissions keep every record under its id. -/
theorem indexed_step (indexed : Indexed world.scheduler)
    (distinct : Distinct world action) (taken : step config world action = some after) :
    Indexed after.scheduler := by
  by_cases submits : ∃ spec correlationId, action = .submit spec correlationId
  · obtain ⟨spec, correlationId, rfl⟩ := submits
    cases taken
    have unused : world.scheduler.table spec.id = none := distinct
    have added : ∀ (new : TaskRecord) (index : Nat) (record : TaskRecord), new.spec = spec →
        (world.scheduler.records ++ [new])[index]? = some record →
        Function.update world.scheduler.table spec.id (some world.scheduler.records.length)
          record.spec.id = some index := by
      rintro new index record rfl known
      rcases Slots.getElem?_concat known with ⟨rfl, rfl⟩ | ⟨-, earlier⟩
      · simp
      · have apart : record.spec.id ≠ new.spec.id := by
          intro same
          rw [← same, indexed index record earlier] at unused
          cases unused
        rw [Function.update_of_ne apart]
        exact indexed index record earlier
    intro index record known
    simp only [withScheduler, Scheduler.submit] at known ⊢
    split at known
    · rw [if_pos ‹_›]
      exact added _ index record rfl known
    · rw [if_neg ‹_›]
      exact added _ index record rfl known
  · have same := sameSpecs_step taken fun spec correlationId submitted =>
      submits ⟨spec, correlationId, submitted⟩
    intro index record known
    have kept : (world.scheduler.records.map TaskRecord.spec)[index]? = some record.spec := by
      rw [← same.specs, List.getElem?_map, known]
      rfl
    rw [List.getElem?_map] at kept
    obtain ⟨before, found, identical⟩ := Option.map_eq_some_iff.mp kept
    rw [same.table, ← identical]
    exact indexed index before found

/-- Runs with distinct ids and tractable specifications are careful. -/
theorem careful_run
    (run : Transition.Run (step config)
      (fun world action => Distinct world action ∧ Tractable config action) {} world) :
    Transition.Run (step config) (Careful config) {} world ∧ Indexed world.scheduler := by
  refine run.invariant (fun world => Transition.Run (step config) (Careful config) {} world ∧
    Indexed world.scheduler) ⟨.refl, by simp [Indexed]⟩ ?_
  rintro state action next - ⟨earlier, indexed⟩ ⟨distinct, tractable⟩ taken
  refine ⟨.next earlier ?_ taken, indexed_step indexed distinct taken⟩
  have carried := carried_run earlier
  cases action with
  | submit spec correlationId =>
    refine ⟨?_, tractable⟩
    by_contra waits
    obtain ⟨index, names, -⟩ := carried.sound.named spec.id waits
    have unused : state.scheduler.table spec.id = none := distinct
    have named : state.scheduler.table spec.id = some index := names
    rw [unused] at named
    cases named
  | sinkReturned worker =>
    rintro ⟨index, point, record⟩ found requeues
    exact indexed index record (at?_eq_some.mp found).2
  | sinkRaised worker => exact distinct.elim
  | quarantineRaised worker => exact distinct.elim
  | _ => trivial

/-- An idle scheduler has ended every record it carries. -/
theorem ended_of_idle {scheduler : Scheduler} (carried : scheduler.Carried)
    (accounted : scheduler.Accounted) (idle : scheduler.idle = true) {index : Nat}
    {record : TaskRecord} (known : scheduler.records[index]? = some record) :
    record.state.terminal = true := by
  obtain ⟨still, awake, empty⟩ := accounted.quiet idle
  have workless : scheduler.workers.countP Worker.inCall = 0 := by
    have counted := accounted.inflight
    omega
  have sleepless : scheduler.retries = [] := by
    have counted := accounted.pendingRetries
    exact List.length_eq_zero_iff.mp (by omega)
  have live := carried.sound.quiet (fun taskId => by
      simp [custody, tokens, sleepless, List.count_eq_zero.mpr (empty taskId)])
    (fun index => by
      refine List.countP_eq_zero.mpr fun worker member holding => ?_
      have free := List.countP_eq_zero.mp workless worker member
      cases worker with
      | busy held point => exact free rfl
      | idle => cases holding
      | exited => cases holding) index
  by_contra unended
  simp [custody, known, TaskRecord.liveId, unended] at live

end SchedulerWorld

open SchedulerWorld

/-- **No accepted task is lost.** With distinct ids, tractable specifications, and a sink and a
monitor that do not raise, in every reachable state: each record that has not ended has a
carrier, no two workers execute one record, `_inflight` and `_pending_retries` are the real
numbers of busy workers and sleeping retries, and while `_idle` is set every record has
ended. -/
theorem no_task_lost {config : SchedulerConfig} {world : SchedulerWorld}
    (run : Transition.Run (step config)
      (fun world action => Distinct world action ∧ Tractable config action) {} world) :
    (∀ (index : Nat) (record : TaskRecord), world.scheduler.records[index]? = some record →
      record.state.terminal = false → world.scheduler.HasCarrier index record) ∧
    (∀ (first second index : Nat) (lease lease' : Lease) (attempt attempt' : Nat),
      world.scheduler.workers[first]? = some (.busy index (.executing lease attempt)) →
      world.scheduler.workers[second]? = some (.busy index (.executing lease' attempt')) →
      first = second) ∧
    world.scheduler.inflight = world.scheduler.workers.countP Worker.inCall ∧
    world.scheduler.pendingRetries = world.scheduler.retries.length ∧
    (world.scheduler.idle = true → ∀ (index : Nat) (record : TaskRecord),
      world.scheduler.records[index]? = some record → record.state.terminal = true) := by
  have carried := carried_run (careful_run run).1
  have accounted := accounted run
  refine ⟨?_, ?_, accounted.inflight, accounted.pendingRetries, ?_⟩
  · intro index record known unended
    exact carried.hasCarrier known unended
  · intro first second index lease lease' attempt attempt' busy busy'
    exact carried.holder_unique busy rfl busy' rfl
  · intro idle index record known
    exact ended_of_idle carried accounted idle known

namespace Bench

/-- A task that fails once and then succeeds. -/
def retried : List SchedulerAction :=
  [.others registry, .start, .submit { kind := "android", id := "demo" } "only", .take 0,
    .leased 0 0, .sinkReturned 0, .executed 0 (.retryable "no such element" false) 0,
    .sinkReturned 0, .released 0, .retryDue 0, .take 1, .leased 1 1, .sinkReturned 1,
    .executed 1 (.result .null) 0, .released 1, .sinkReturned 1]

/-- A task whose selector asks for a tag that is a list. -/
def unhashable : TaskSpec where
  kind := "android"
  id := "tagged"
  selector := { tags := [.arr [.str "x"]] }

end Bench

/-- The guarantees hold at the end of a run in which one task was retried, and there `_idle` is
set. -/
theorem no_task_lost_retried : ∃ world : SchedulerWorld, world.scheduler.idle = true ∧
    world.scheduler.records.length = 1 ∧
    (∀ (index : Nat) (record : TaskRecord), world.scheduler.records[index]? = some record →
      record.state.terminal = false → world.scheduler.HasCarrier index record) ∧
    (∀ (first second index : Nat) (lease lease' : Lease) (attempt attempt' : Nat),
      world.scheduler.workers[first]? = some (.busy index (.executing lease attempt)) →
      world.scheduler.workers[second]? = some (.busy index (.executing lease' attempt')) →
      first = second) ∧
    world.scheduler.inflight = world.scheduler.workers.countP Worker.inCall ∧
    world.scheduler.pendingRetries = world.scheduler.retries.length ∧
    (world.scheduler.idle = true → ∀ (index : Nat) (record : TaskRecord),
      world.scheduler.records[index]? = some record → record.state.terminal = true) := by
  have passed : (Transition.execute (Transition.guarded (step Bench.config) fun world action =>
      Distinct world action ∧ Tractable Bench.config action) {} Bench.retried).any
        (fun world => world.scheduler.idle && world.scheduler.records.length == 1) = true := by
    decide +kernel
  obtain ⟨world, run, shown⟩ := Transition.reaches passed
  simp only [Bool.and_eq_true, beq_iff_eq] at shown
  exact ⟨world, shown.1, shown.2, no_task_lost run⟩

/-- **An accepted task can be lost** with distinct ids and nothing that raises but the code
itself: once because its tags are unhashable, once because its backoff overflows. In both final
states `_idle` is set, yet the record has not ended and nothing will go on with it. -/
theorem accepted_task_lost :
    (∃ world : SchedulerWorld, Transition.Run (step Bench.config) Distinct {} world ∧
      world.scheduler.records[0]?.map TaskRecord.state = some .pending ∧
      world.scheduler.queue = [] ∧ world.scheduler.retries = [] ∧
      world.scheduler.workers = [.idle, .idle] ∧ world.scheduler.idle = true) ∧
    (∃ world : SchedulerWorld, Transition.Run (step Bench.config) Distinct {} world ∧
      world.scheduler.records[0]?.map TaskRecord.state = some .running ∧
      world.scheduler.queue = [] ∧ world.scheduler.retries = [] ∧
      world.scheduler.workers = [.idle, .idle] ∧ world.scheduler.idle = true) := by
  refine ⟨?_, Bench.patient_stranded⟩
  have passed : (Transition.execute (Transition.guarded (step Bench.config) Distinct) {}
      [.others Bench.registry, .start, .submit Bench.unhashable "only", .take 0]).any
        (fun world => decide (world.scheduler.records[0]?.map TaskRecord.state = some .pending ∧
          world.scheduler.queue = [] ∧ world.scheduler.retries = [] ∧
          world.scheduler.workers = [.idle, .idle] ∧ world.scheduler.idle = true)) = true := by
    decide +kernel
  obtain ⟨world, run, shown⟩ := Transition.reaches passed
  exact ⟨world, run, by simpa using shown⟩

end DeviceOrchestrator
