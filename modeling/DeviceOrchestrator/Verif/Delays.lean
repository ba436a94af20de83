import Mathlib.Tactic.Linarith
import DeviceOrchestrator.Core.Intake
import DeviceOrchestrator.Verif.Backoff

/-!
# The delay of a retry

The delay that `_backoff` computes is bounded by its floor and by the cap with its jitter, for
every draw. Nothing bounds the attempt it is computed for: `max_attempts` comes from the client, and
from attempt 1024 on the power of two is no float, so `_requeue` raises instead of waiting for the
cap.
-/
namespace DeviceOrchestrator

/-- Retry delays are positive and the jitter is a fraction of them. -/
structure SchedulerPolicy.Sound (policy : SchedulerPolicy) : Prop where
  /-- The first delay is positive. -/
  base : 0 < policy.retryBaseS
  /-- The cap is positive. -/
  cap : 0 < policy.retryMaxS
  /-- The jitter takes away at most the whole delay and adds at most as much. -/
  jitter : 0 ≤ policy.retryJitter ∧ policy.retryJitter ≤ 1

/-- The longest delay of a policy. -/
def SchedulerPolicy.longest (policy : SchedulerPolicy) : Rat :=
  max (1 / 10) (policy.retryMaxS * (1 + policy.retryJitter))

/-- A draw lies between the ends of its interval. -/
theorem uniform_le {high draw : Rat} (proper : 0 ≤ high) (drawn : draw ≤ 1) :
    uniform (-high) high draw ≤ high := by
  have scaled : high * draw ≤ high * 1 := mul_le_mul_of_nonneg_left drawn proper
  unfold uniform
  linarith only [scaled]

/-- The delays that are computed are bounded. -/
theorem SchedulerPolicy.Sound.backoff_le {policy : SchedulerPolicy} (sound : policy.Sound)
    {attempt : Nat} {draw delay : Rat} (drawn : draw ≤ 1)
    (computed : policy.backoff attempt draw = .ok delay) :
    1 / 10 ≤ delay ∧ delay ≤ policy.longest := by
  unfold backoff timesPowerOfTwo at computed
  split at computed
  · cases computed
  · rename_i grown value
    have grew : grown = policy.retryBaseS * 2 ^ attempt := by
      split at value
      · cases value
      · exact (Except.ok.inj value).symm
    obtain rfl := Except.ok.inj computed
    have positive : 0 < grown := by
      rw [grew]
      exact mul_pos sound.base (pow_pos (by decide) attempt)
    have raw : 0 ≤ min policy.retryMaxS grown := le_min sound.cap.le positive.le
    have spread := uniform_le (mul_nonneg raw sound.jitter.1) drawn
    have scale : 0 ≤ 1 + policy.retryJitter := add_nonneg (by decide) sound.jitter.1
    have capped : min policy.retryMaxS grown * (1 + policy.retryJitter) ≤
        policy.retryMaxS * (1 + policy.retryJitter) :=
      mul_le_mul_of_nonneg_right (min_le_left _ _) scale
    refine ⟨le_max_left _ _, max_le_max le_rfl ?_⟩
    linarith only [spread, capped]

/-- **A bounded retry is on its way.** The record is PENDING, and when the sink returns, in whatever
world, the call completes and the retry is created with a delay between the floor and the cap. -/
def Scheduler.RetriesInTime (config : SchedulerConfig) (after : Scheduler) (worker index : Nat)
    (record : TaskRecord) (lease : Option Lease) : Prop :=
  ∃ delay, 1 / 10 ≤ delay ∧ delay ≤ config.policy.longest ∧
    after.records[index]? = some { record with state := .pending } ∧
    after.workers[worker]? = some (.busy index (.requeueing lease delay)) ∧
    ∀ (later : SchedulerWorld) (present : TaskRecord),
      later.at? worker = some (index, .requeueing lease delay, present) →
      present.spec = record.spec → ∃ final,
        later.step config (.sinkReturned worker) = some final ∧
        final.scheduler.retries = later.scheduler.retries ++ [⟨record.spec.id, delay⟩] ∧
        final.scheduler.pendingRetries = later.scheduler.pendingRetries + 1 ∧
        final.scheduler.records = later.scheduler.records

section
variable {config : SchedulerConfig} {scheduler : Scheduler} {worker index : Nat}
variable {record : TaskRecord}

/-- The sink that announced PENDING returns, and the retry is created. -/
theorem retry_created {later : SchedulerWorld} {present : TaskRecord} {lease : Option Lease}
    {delay : Rat} (waits : later.at? worker = some (index, .requeueing lease delay, present)) :
    ∃ final, later.step config (.sinkReturned worker) = some final ∧
      final.scheduler.retries = later.scheduler.retries ++ [⟨present.spec.id, delay⟩] ∧
      final.scheduler.pendingRetries = later.scheduler.pendingRetries + 1 ∧
      final.scheduler.records = later.scheduler.records := by
  simp only [SchedulerWorld.step, waits, Scheduler.sinkReturned, Option.map_some]
  refine ⟨_, rfl, ?_, ?_, ?_⟩
  all_goals cases lease <;>
    simp [SchedulerWorld.withScheduler, Scheduler.unwind, Scheduler.leave, Scheduler.place,
      Scheduler.settleIdle]
  all_goals split <;> rfl

/-- Once the backoff overflows, `_requeue` leaves the record as it was. -/
theorem requeue_raises (left : record.attemptCount < record.spec.maxAttempts)
    (large : 1024 ≤ record.attemptCount) (lease : Option Lease) (reason : String) (draw : Rat) :
    scheduler.requeue config worker index record lease reason draw =
      scheduler.unwind worker index lease := by
  have overflows : config.policy.backoff record.attemptCount draw = .error .overflowError := by
    simp [SchedulerPolicy.backoff, timesPowerOfTwo, large]
  unfold Scheduler.requeue
  rw [if_neg (by omega), overflows]

/-- **A failure that is not final is requeued in time exactly below attempt 1024.** -/
theorem requeued_in_time_iff (sound : config.policy.Sound) {draw : Rat}
    (drawn : 0 ≤ draw ∧ draw ≤ 1) (present : worker < scheduler.workers.length)
    (known : scheduler.records[index]? = some record)
    (left : record.attemptCount < record.spec.maxAttempts) (lease : Option Lease)
    (reason : String) :
    (scheduler.requeue config worker index record lease reason draw).RetriesInTime config worker
      index record lease ↔ record.attemptCount < 1024 := by
  constructor
  · rintro ⟨delay, -, -, -, waits, -⟩
    by_contra large
    rw [requeue_raises left (by omega)] at waits
    cases lease <;> simp [Scheduler.unwind, Scheduler.place, present] at waits
  · intro few
    obtain ⟨delay, computed⟩ := (config.policy.backoff_ok_iff record.attemptCount draw).mpr few
    obtain ⟨floor, cap⟩ := sound.backoff_le drawn.2 computed
    obtain ⟨bound, -⟩ := List.getElem?_eq_some_iff.mp known
    have went : scheduler.requeue config worker index record lease reason draw =
        scheduler.advance worker index { record with state := .pending }
          (.requeueing lease delay) [{ record with state := .pending }.event] := by
      unfold Scheduler.requeue
      rw [if_neg (by omega), computed]
      exact Scheduler.announce_eq known _ _
    rw [went]
    refine ⟨delay, floor, cap, Scheduler.advance_record bound, Scheduler.advance_worker present, ?_⟩
    intro later there waits same
    rw [← same]
    exact retry_created waits

end

namespace Bench

/-- The patient task with as many failed attempts as are given. -/
def weary (count : Nat) : TaskRecord :=
  patientRecord .running
    (List.replicate count { number := 1, deviceId := "phone-a", ended := true })

/-- A scheduler with a worker at that record. -/
def wearyScheduler (count : Nat) : Scheduler where
  records := [weary count]
  workers := [.busy 0 (.executing ⟨"phone-a", 0⟩ 0)]

/-- The policy of the bench is sound. -/
theorem config_sound : config.policy.Sound where
  base := by decide +kernel
  cap := by decide +kernel
  jitter := by decide +kernel

/-- The failed attempts of the record are counted. -/
theorem weary_attemptCount (count : Nat) : (weary count).attemptCount = count :=
  List.length_replicate

end Bench

/-- The last attempt that is requeued in time. -/
theorem requeued_in_time_iff_last :
    ((Bench.wearyScheduler 1023).requeue Bench.config 0 0 (Bench.weary 1023)
      (some ⟨"phone-a", 0⟩) "no such element" (1 / 2)).RetriesInTime Bench.config 0 0
        (Bench.weary 1023) (some ⟨"phone-a", 0⟩) := by
  have count := Bench.weary_attemptCount 1023
  have left : (Bench.weary 1023).attemptCount < (Bench.weary 1023).spec.maxAttempts := by
    rw [count]
    decide
  exact (requeued_in_time_iff Bench.config_sound (by decide +kernel) (by decide) rfl left _ _).mpr
    (by omega)

/-- **The 1025th attempt never comes.** A client may ask for that many; after 1024 of them
`_requeue` raises, and a run of the scheduler ends with the record RUNNING and nothing that will go
on with it. -/
theorem requeue_overflows :
    TaskSpec.fromDict default "patient"
        [("kind", .str "android"), ("max_attempts", .int 1025)] = .ok Bench.patient ∧
    Bench.config.policy.Sound ∧
    (Bench.weary 1024).attemptCount < (Bench.weary 1024).spec.maxAttempts ∧
    ¬((Bench.wearyScheduler 1024).requeue Bench.config 0 0 (Bench.weary 1024)
      (some ⟨"phone-a", 0⟩) "no such element" (1 / 2)).RetriesInTime Bench.config 0 0
        (Bench.weary 1024) (some ⟨"phone-a", 0⟩) ∧
    ∃ world : SchedulerWorld,
      Transition.Run (SchedulerWorld.step Bench.config) SchedulerWorld.Distinct {} world ∧
      world.scheduler.records[0]?.map TaskRecord.state = some .running ∧
      world.scheduler.queue = [] ∧ world.scheduler.retries = [] ∧
      world.scheduler.workers = [.idle, .idle] ∧ world.scheduler.idle = true := by
  have count := Bench.weary_attemptCount 1024
  have left : (Bench.weary 1024).attemptCount < (Bench.weary 1024).spec.maxAttempts := by
    rw [count]
    decide
  refine ⟨rfl, Bench.config_sound, left, ?_, Bench.patient_stranded⟩
  rw [requeue_raises left (by omega)]
  rintro ⟨delay, -, -, -, waits, -⟩
  cases waits

end DeviceOrchestrator
