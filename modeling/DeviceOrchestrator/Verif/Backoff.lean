import DeviceOrchestrator.Verif.Resubmission

/-!
# The backoff that overflows

`2 ** attempt` is an int, and the float it multiplies cannot hold it from attempt 1024 on. A
task with more attempts than that fails its way there in an ordinary run: each failed attempt
returns the task to the queue with one attempt more, and after the 1024th the requeue raises.
-/
namespace DeviceOrchestrator

open SchedulerWorld

namespace Bench

/-- A task with more attempts than the backoff can count. -/
def patient : TaskSpec := { kind := "android", id := "patient", maxAttempts := 1025 }

/-- The record of the patient task. -/
def patientRecord (state : TaskState) (attempts : List Attempt) : TaskRecord :=
  { spec := patient, correlationId := "only", state := state, attempts := attempts }

/-- The patient task on the bench, with one worker at it. -/
def patientWorld (leases : DeviceId → Option Lease) (issued : List Nat) (record : TaskRecord)
    (worker : Worker) (queue : List (Option TaskId)) (inflight : Int) (retries : List Retry)
    (published : List StateEvent) : SchedulerWorld where
  registry := { devices := registry.devices, leases := leases, issued := issued }
  scheduler :=
    { records := [record]
      table := Function.update (fun _ => none) "patient" (some 0)
      queue := queue
      workers := [worker, .idle]
      pool := [0, 1]
      running := true
      idle := false
      inflight := inflight
      pendingRetries := retries.length
      retries := retries
      published := published }

section
variable (leases : DeviceId → Option Lease) (issued : List Nat) (attempts : List Attempt)
variable (published : List StateEvent) (lease : Lease) (attempt : Nat) (delay : Rat)

/-- The worker takes the task. -/
theorem patient_taken :
    step config (patientWorld leases issued (patientRecord .pending attempts) .idle
        [some "patient"] 0 [] published) (.take 0) =
      some (patientWorld leases issued (patientRecord .pending attempts) (.busy 0 .acquiring) []
        1 [] published) := rfl

/-- The worker gets a free phone. -/
theorem patient_leased (free : leases "phone-a" = none) {token : Nat} (fresh : token ∉ issued) :
    ∃ published', step config (patientWorld leases issued (patientRecord .pending attempts)
        (.busy 0 .acquiring) [] 1 [] published) (.leased 0 token) =
      some (patientWorld (Function.update leases "phone-a" (some ⟨"phone-a", token⟩))
        (token :: issued) (patientRecord .running
          (attempts ++ [{ number := attempts.length + 1, deviceId := "phone-a" }]))
        (.busy 0 (.starting ⟨"phone-a", token⟩ attempts.length)) [] 1 [] published') := by
  have found : Registry.findFree
      { devices := registry.devices, leases := leases, issued := issued } patient.selector =
        .ok (some { id := "phone-a" }) := by
    simp [Registry.findFree, Registry.findFreeIn, registry, free, DeviceState.assignable,
      Device.matches, patient, Json.truthy]
  simp only [step, patientWorld, at?, patientRecord, List.getElem?_cons_zero, Option.map_some,
    found, fresh, ↓reduceIte]
  exact ⟨_, rfl⟩

/-- The target starts. -/
theorem patient_started :
    step config (patientWorld leases issued (patientRecord .running attempts)
        (.busy 0 (.starting lease attempt)) [] 1 [] published) (.sinkReturned 0) =
      some (patientWorld leases issued (patientRecord .running attempts)
        (.busy 0 (.executing lease attempt)) [] 1 [] published) := rfl

/-- The attempts with one of them failed. -/
def failed (attempts : List Attempt) (attempt : Nat) : List Attempt :=
  attempts.modify attempt fun attempt =>
    { attempt with ended := true, error := some "no such element" }

/-- An attempt fails while the backoff can still be computed. -/
theorem patient_failed (few : attempts.length < 1024) : ∃ delay published',
    step config (patientWorld leases issued (patientRecord .running attempts)
        (.busy 0 (.executing lease attempt)) [] 1 [] published)
        (.executed 0 (.retryable "no such element" false) 0) =
      some (patientWorld leases issued (patientRecord .pending (failed attempts attempt))
        (.busy 0 (.requeueing (some lease) delay)) [] 1 [] published') := by
  obtain ⟨delay, computed⟩ := (config.policy.backoff_ok_iff attempts.length 0).mpr few
  have left : ¬(patientRecord .running (failed attempts attempt)).spec.maxAttempts ≤
      (patientRecord .running (failed attempts attempt)).attemptCount := by
    show ¬(1025 : Int) ≤ (failed attempts attempt).length
    simp only [failed, List.length_modify]
    omega
  have computed : config.policy.backoff
      (patientRecord .running (failed attempts attempt)).attemptCount 0 = .ok delay := by
    show config.policy.backoff (failed attempts attempt).length 0 = .ok delay
    simpa [failed] using computed
  refine ⟨delay, published ++
    [(patientRecord .pending (failed attempts attempt)).event], ?_⟩
  show some (withScheduler _ (Scheduler.requeue config _ 0 0
    (patientRecord .running (failed attempts attempt)) (some lease) _ 0)) = _
  rw [Scheduler.requeue, if_neg left, computed]
  rfl

/-- The attempt that reaches 1024 makes the requeue raise. -/
theorem patient_lost (many : attempts.length = 1024) :
    step config (patientWorld leases issued (patientRecord .running attempts)
        (.busy 0 (.executing lease attempt)) [] 1 [] published)
        (.executed 0 (.retryable "no such element" false) 0) =
      some (patientWorld leases issued (patientRecord .running (failed attempts attempt))
        (.busy 0 (.releasing lease)) [] 1 [] published) := by
  have left : ¬(patientRecord .running (failed attempts attempt)).spec.maxAttempts ≤
      (patientRecord .running (failed attempts attempt)).attemptCount := by
    show ¬(1025 : Int) ≤ (failed attempts attempt).length
    simp only [failed, List.length_modify]
    omega
  have overflows : config.policy.backoff
      (patientRecord .running (failed attempts attempt)).attemptCount 0 =
        .error .overflowError := by
    show config.policy.backoff (failed attempts attempt).length 0 = .error .overflowError
    simp [failed, many, SchedulerPolicy.backoff, timesPowerOfTwo]
  show some (withScheduler _ (Scheduler.requeue config _ 0 0
    (patientRecord .running (failed attempts attempt)) (some lease) _ 0)) = _
  rw [Scheduler.requeue, if_neg left, overflows]
  rfl

/-- The retry is created. -/
theorem patient_requeued :
    step config (patientWorld leases issued (patientRecord .pending attempts)
        (.busy 0 (.requeueing (some lease) delay)) [] 1 [] published) (.sinkReturned 0) =
      some (patientWorld leases issued (patientRecord .pending attempts)
        (.busy 0 (.releasing lease)) [] 1 [⟨"patient", delay⟩] published) := rfl

/-- The worker releases the phone and leaves. -/
theorem patient_released (held : leases lease.deviceId = some lease) (retry : Retry) :
    step config (patientWorld leases issued (patientRecord .pending attempts)
        (.busy 0 (.releasing lease)) [] 1 [retry] published) (.released 0) =
      some (patientWorld (Function.update leases lease.deviceId none) issued
        (patientRecord .pending attempts) .idle [] 0 [retry] published) := by
  have freed : Registry.unlease
      { devices := registry.devices, leases := leases, issued := issued } lease =
        { devices := registry.devices, leases := Function.update leases lease.deviceId none,
          issued := issued } := by
    simp [Registry.unlease, held]
  show some (SchedulerWorld.mk (Registry.unlease
    { devices := registry.devices, leases := leases, issued := issued } lease) _) = _
  rw [freed]
  rfl

/-- The retry wakes. -/
theorem patient_due :
    step config (patientWorld leases issued (patientRecord .pending attempts) .idle [] 0
        [⟨"patient", delay⟩] published) (.retryDue 0) =
      some (patientWorld leases issued (patientRecord .pending attempts) .idle
        [some "patient"] 0 [] published) := rfl

/-- **One more attempt.** From the queue and back to it, with one attempt more. -/
theorem patient_again (few : attempts.length + 1 < 1024) (free : leases "phone-a" = none)
    (fresh : ∀ token ∈ issued, token < attempts.length) :
    ∃ leases' issued' attempts' published', attempts'.length = attempts.length + 1 ∧
      leases' "phone-a" = none ∧ (∀ token ∈ issued', token < attempts'.length) ∧
      Transition.Run (step config) Distinct
        (patientWorld leases issued (patientRecord .pending attempts) .idle [some "patient"] 0 []
          published)
        (patientWorld leases' issued' (patientRecord .pending attempts') .idle [some "patient"] 0
          [] published') := by
  have unused : attempts.length ∉ issued := fun member => Nat.lt_irrefl _ (fresh _ member)
  let lease : Lease := ⟨"phone-a", attempts.length⟩
  let leased := Function.update leases "phone-a" (some lease)
  let tried := attempts ++ [{ number := attempts.length + 1, deviceId := "phone-a" }]
  obtain ⟨first, granted⟩ := patient_leased leases issued attempts published free unused
  obtain ⟨delay, second, failure⟩ := patient_failed leased (attempts.length :: issued) tried first
    lease attempts.length (by simpa [tried] using few)
  refine ⟨Function.update leased "phone-a" none, attempts.length :: issued,
    failed tried attempts.length, second, by simp [failed, tried], by simp, ?_, ?_⟩
  · intro token member
    rcases List.mem_cons.mp member with rfl | earlier
    · simp [failed, tried]
    · have small := fresh token earlier
      simp only [failed, tried, List.length_modify, List.length_append, List.length_singleton]
      omega
  · have released := patient_released leased (attempts.length :: issued)
      (failed tried attempts.length) second lease (by simp [leased, lease]) ⟨"patient", delay⟩
    have taken := patient_taken leases issued attempts published
    have started := patient_started leased (attempts.length :: issued) tried first lease
      attempts.length
    have requeued := patient_requeued leased (attempts.length :: issued)
      (failed tried attempts.length) second lease delay
    have due := patient_due (Function.update leased "phone-a" none) (attempts.length :: issued)
      (failed tried attempts.length) second delay
    have here : Transition.Run (step config) Distinct
        (patientWorld leases issued (patientRecord .pending attempts) .idle [some "patient"] 0 []
          published) _ := .refl
    have toTarget := (here.next (by trivial) taken).next (by trivial) granted
    have toRetry := ((toTarget.next (by trivial) started).next (by trivial) failure).next
      (by trivial) requeued
    exact (toRetry.next (by trivial) released).next (by trivial) due

end

/-- The patient task waits with any number of failed attempts below the limit. -/
theorem patient_waits (count : Nat) (few : count < 1024) :
    ∃ leases issued attempts published, attempts.length = count ∧ leases "phone-a" = none ∧
      (∀ token ∈ issued, token < attempts.length) ∧
      Transition.Run (step config) Distinct {}
        (patientWorld leases issued (patientRecord .pending attempts) .idle [some "patient"] 0 []
          published) := by
  induction count with
  | zero =>
    refine ⟨fun _ => none, [], [], [], rfl, rfl, by simp, ?_⟩
    have supplied : step config {} (.others registry) = some { registry := registry } := rfl
    have started : step config { registry := registry } .start = some
        { registry := registry
          scheduler := { workers := [.idle, .idle], pool := [0, 1], running := true } } := rfl
    have unnamed : Distinct
        { registry := registry
          scheduler := { workers := [.idle, .idle], pool := [0, 1], running := true } }
        (.submit patient "only") := rfl
    exact ((Transition.Run.refl.next (by trivial) supplied).next (by trivial) started).next
      unnamed rfl
  | succ count ih =>
    obtain ⟨leases, issued, attempts, published, length, free, fresh, run⟩ := ih (by omega)
    obtain ⟨leases', issued', attempts', published', length', free', fresh', further⟩ :=
      patient_again leases issued attempts published (by omega) free fresh
    exact ⟨leases', issued', attempts', published', by omega, free', fresh', run.trans further⟩

/-- **The 1024th failure loses the task.** The scheduler is idle and nothing will go on with a
record that is still RUNNING. -/
theorem patient_stranded : ∃ world : SchedulerWorld,
    Transition.Run (step config) Distinct {} world ∧
    world.scheduler.records[0]?.map TaskRecord.state = some .running ∧
    world.scheduler.queue = [] ∧ world.scheduler.retries = [] ∧
    world.scheduler.workers = [.idle, .idle] ∧ world.scheduler.idle = true := by
  obtain ⟨leases, issued, attempts, published, length, free, fresh, run⟩ :=
    patient_waits 1023 (by decide)
  have unused : attempts.length ∉ issued := fun member => Nat.lt_irrefl _ (fresh _ member)
  obtain ⟨first, leased⟩ := patient_leased leases issued attempts published free unused
  have lost := patient_lost
    (Function.update leases "phone-a" (some ⟨"phone-a", attempts.length⟩))
    (attempts.length :: issued)
    (attempts ++ [{ number := attempts.length + 1, deviceId := "phone-a" }]) first
    ⟨"phone-a", attempts.length⟩ attempts.length (by simp [length])
  have toTarget := ((run.next (by trivial) (patient_taken ..)).next (by trivial) leased).next
    (by trivial) (patient_started ..)
  have toRelease := (toTarget.next (by trivial) lost).next (by trivial)
    (by rfl : step config _ (.released 0) = some _)
  exact ⟨_, toRelease.next (by trivial) (by rfl : step config _ (.sinkReturned 0) = some _), rfl,
    rfl, rfl, rfl, rfl⟩

end Bench

end DeviceOrchestrator
