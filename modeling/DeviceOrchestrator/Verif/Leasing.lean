import DeviceOrchestrator.Core.Orchestrator
import DeviceOrchestrator.Verif.RunOnce

/-!
# Who holds which lease

A worker carries its lease from `acquire` to `release`. `leasing_step` says what one step of the
scheduler is to the leases and to the workers that carry them, and from it every run keeps the
lease of each worker in the registry, one worker to a device.
-/
namespace DeviceOrchestrator

/-- A release touches no other device. -/
theorem Registry.leases_unlease_other {registry : Registry} {lease : Lease} {deviceId : DeviceId}
    (other : deviceId ≠ lease.deviceId) :
    (registry.unlease lease).leases deviceId = registry.leases deviceId := by
  unfold unlease
  split
  · rfl
  · split
    · simp [other]
    · rfl

namespace SchedulerWorld

/-- The lease that a worker carries. -/
def leaseOf (world : SchedulerWorld) (worker : Nat) : Option Lease :=
  world.scheduler.workers[worker]?.bind Worker.lease

/-- Each worker's lease is entered, and no two workers carry leases on one device. -/
structure Carrying (world : SchedulerWorld) : Prop where
  /-- A carried lease is the entry of its device. -/
  entered : ∀ worker lease, world.leaseOf worker = some lease →
    world.registry.leases lease.deviceId = some lease
  /-- One worker to a device. -/
  apart : ∀ worker other lease lease', world.leaseOf worker = some lease →
    world.leaseOf other = some lease' → lease.deviceId = lease'.deviceId → worker = other

/-- **What one step is to the leases.** -/
inductive Leasing (world after : SchedulerWorld) : Prop
  /-- The registry stays, and no worker takes a lease. -/
  | kept (registry : after.registry = world.registry)
      (carried : ∀ worker lease, after.leaseOf worker = some lease →
        world.leaseOf worker = some lease)
  /-- A worker gets a lease on a free device. -/
  | granted (worker : Nat) (lease : Lease)
      (online : world.registry.stateOf lease.deviceId = some .online)
      (free : world.registry.leases lease.deviceId = none)
      (changes : ∃ selector, world.registry.change (.lease selector lease.token) =
        some after.registry)
      (registry : after.registry = world.registry.grant lease)
      (taken : after.leaseOf worker = some lease)
      (others : ∀ other, other ≠ worker → after.leaseOf other = world.leaseOf other)
  /-- A worker gives its lease back. -/
  | released (worker : Nat) (lease : Lease) (held : world.leaseOf worker = some lease)
      (registry : after.registry = world.registry.unlease lease)
      (gone : after.leaseOf worker = none)
      (others : ∀ other, other ≠ worker → after.leaseOf other = world.leaseOf other)

section
variable {config : SchedulerConfig} {world after : SchedulerWorld} {action : SchedulerAction}
variable {worker : Nat}

/-- A busy worker carries the lease of its await. -/
theorem leaseOf_busy {index : Nat} {point : Point}
    (busy : world.scheduler.workers[worker]? = some (.busy index point)) :
    world.leaseOf worker = point.lease := by
  simp [leaseOf, busy, Worker.lease]

/-- A worker that moves carries the lease of the place it moves to. -/
theorem leaseOf_moved {old : Worker} (state : Worker)
    (found : world.scheduler.workers[worker]? = some old)
    (moved : after.scheduler.workers = world.scheduler.workers.set worker state) :
    after.leaseOf worker = state.lease := by
  obtain ⟨inside, -⟩ := List.getElem?_eq_some_iff.mp found
  simp [leaseOf, moved, inside]

/-- A worker that stays carries what it carried. -/
theorem leaseOf_stayed {other : Nat} {state : Worker} (apart : other ≠ worker)
    (moved : after.scheduler.workers = world.scheduler.workers.set worker state) :
    after.leaseOf other = world.leaseOf other := by
  simp [leaseOf, moved, List.getElem?_set_ne (Ne.symm apart)]

/-- A worker that takes no lease as it moves. -/
theorem carried_moved {old : Worker} (state : Worker)
    (found : world.scheduler.workers[worker]? = some old)
    (moved : after.scheduler.workers = world.scheduler.workers.set worker state)
    (same : ∀ lease, state.lease = some lease → old.lease = some lease) :
    ∀ other lease, after.leaseOf other = some lease → world.leaseOf other = some lease := by
  intro other lease carried
  by_cases apart : other = worker
  · subst apart
    rw [leaseOf_moved state found moved] at carried
    simpa [leaseOf, found] using same lease carried
  · rwa [leaseOf_stayed apart moved] at carried

/-- A worker that moves to a place without a lease takes none. -/
theorem carried_freed {old : Worker} (state : Worker)
    (found : world.scheduler.workers[worker]? = some old)
    (moved : after.scheduler.workers = world.scheduler.workers.set worker state)
    (free : state.lease = none) :
    ∀ other lease, after.leaseOf other = some lease → world.leaseOf other = some lease := by
  apply carried_moved state found moved
  intro lease held
  rw [free] at held
  cases held

/-- New workers carry nothing. -/
theorem carried_started (count : Nat)
    (started : after.scheduler.workers =
      world.scheduler.workers ++ List.replicate count .idle) :
    ∀ other lease, after.leaseOf other = some lease → world.leaseOf other = some lease := by
  intro other lease carried
  obtain ⟨state, found, holds⟩ := Option.bind_eq_some_iff.mp carried
  rw [started] at found
  rcases Slots.getElem?_extended found with earlier | fresh
  · simp [leaseOf, earlier, holds]
  · obtain ⟨-, rfl⟩ := List.mem_replicate.mp fresh
    cases holds

/-- Unwinding takes no lease. -/
theorem unwind_lease (scheduler : Scheduler) (worker index : Nat) (lease : Option Lease) :
    ∃ state, (scheduler.unwind worker index lease).workers =
      scheduler.workers.set worker state ∧
        ∀ held, state.lease = some held → lease = some held := by
  cases lease with
  | none => exact ⟨.idle, Scheduler.workers_leave _ _, nofun⟩
  | some lease => exact ⟨.busy index (.releasing lease), rfl, fun _ same => same⟩

/-- `_requeue` takes no lease. -/
theorem requeue_lease {scheduler after : Scheduler} {worker index : Nat} {record : TaskRecord}
    {lease : Option Lease} (went : Scheduler.Requeue scheduler worker index record lease after) :
    ∃ state, after.workers = scheduler.workers.set worker state ∧
      ∀ held, state.lease = some held → lease = some held := by
  cases went with
  | exhausted error spent => exact ⟨.busy index (.failing lease), rfl, fun _ same => same⟩
  | delayed delay left small =>
    exact ⟨.busy index (.requeueing lease delay), rfl, fun _ same => same⟩
  | overflow left large => exact unwind_lease _ _ _ _

/-- **Every step of the scheduler leases, gives back, or neither.** -/
theorem leasing_step (own : ∀ registry, action ≠ .others registry)
    (taken : step config world action = some after) : Leasing world after := by
  have still : ∀ scheduler : Scheduler, scheduler.workers = world.scheduler.workers →
      Leasing world (world.withScheduler scheduler) := fun scheduler same =>
    .kept rfl (carried_started 0 (by simp [withScheduler, same]))
  cases step_effect taken with
  | submit spec correlationId =>
    refine still _ ?_
    simp only [Scheduler.submit]
    split <;> rfl
  | start =>
    simp only [Scheduler.start]
    split
    · exact still _ rfl
    · exact .kept rfl (carried_started _ rfl)
  | stop =>
    refine still _ ?_
    simp only [Scheduler.stop]
    split <;> rfl
  | stopped call stopping => exact still _ rfl
  | pill worker rest idle head =>
    have moved : (world.withScheduler
        ({ world.scheduler with queue := rest }.place worker .exited)).scheduler.workers =
      world.scheduler.workers.set worker .exited := rfl
    exact .kept rfl (carried_freed .exited idle moved rfl)
  | take worker taskId rest idle head =>
    have went := Scheduler.takeTask_cases world.registry worker taskId rest world.scheduler
    generalize world.scheduler.takeTask world.registry worker taskId rest = after at went ⊢
    refine .kept rfl ?_
    cases went with
    | skipped skips =>
      exact carried_freed .idle idle (Scheduler.workers_leave _ _) rfl
    | raised index record error named known unskipped raised =>
      exact carried_freed .idle idle (Scheduler.workers_leave _ _) rfl
    | abandoned index record error named known unskipped =>
      exact carried_freed (.busy index .abandoning) idle rfl rfl
    | acquiring index record named known unskipped =>
      exact carried_freed (.busy index .acquiring) idle rfl rfl
  | leased worker token index record device attempts busy known free fresh length =>
    obtain ⟨found, unleased, online, -⟩ := Registry.findFree_some free
    refine .granted worker ⟨device.id, token⟩ (by simp [Registry.stateOf, found, online])
      unleased ⟨record.spec.selector, by simp [Registry.change, free, fresh]⟩ rfl ?_ ?_
    · exact leaseOf_moved (.busy index (.starting ⟨device.id, token⟩ _)) busy rfl
    · exact fun other apart => leaseOf_stayed apart rfl
  | leaseTimeout worker draw index record after busy known went =>
    obtain ⟨state, moved, same⟩ := requeue_lease went
    exact .kept rfl (carried_moved state busy moved same)
  | leaseError worker index record error busy known raised =>
    exact .kept rfl (carried_freed .idle busy (Scheduler.workers_leave _ _) rfl)
  | sinkReturned worker index point record after busy known went =>
    refine .kept rfl ?_
    cases point <;> cases went
    · exact carried_freed .idle busy (Scheduler.workers_leave _ _) rfl
    · exact carried_moved _ busy rfl fun _ same => same
    · obtain ⟨state, moved, same⟩ := unwind_lease _ worker index _
      exact carried_moved state busy moved same
    · obtain ⟨state, moved, same⟩ := unwind_lease _ worker index _
      exact carried_moved state busy moved same
    · exact carried_freed .idle busy (Scheduler.workers_leave _ _) rfl
  | sinkRaised worker index point record after busy known went =>
    refine .kept rfl ?_
    cases point <;> cases went
    · exact carried_freed .idle busy (Scheduler.workers_leave _ _) rfl
    · exact carried_freed .idle busy (Scheduler.workers_leave _ _) rfl
    · obtain ⟨state, moved, same⟩ := unwind_lease _ worker index _
      exact carried_moved state busy moved same
    · obtain ⟨state, moved, same⟩ := unwind_lease _ worker index _
      exact carried_moved state busy moved same
    · exact carried_freed .idle busy (Scheduler.workers_leave _ _) rfl
  | executed worker outcome draw index lease attempt record ended after busy known same went =>
    refine .kept rfl ?_
    cases went with
    | succeeded value => exact carried_moved _ busy rfl fun _ same => same
    | rejected message => exact carried_moved _ busy rfl fun _ same => same
    | blamed outcome reason wired blames online => exact carried_moved _ busy rfl fun _ same => same
    | requeued outcome after fails excused went =>
      obtain ⟨state, moved, same⟩ := requeue_lease went
      exact carried_moved state busy moved same
  | quarantined worker draw index lease reason record after busy known went =>
    obtain ⟨state, moved, same⟩ := requeue_lease went
    exact .kept rfl (carried_moved state busy moved same)
  | quarantineRaised worker index lease reason record busy known =>
    exact .kept rfl (carried_moved _ busy rfl fun _ same => same)
  | releasedQuietly worker index lease record busy known pending =>
    refine .released worker lease (leaseOf_busy busy) rfl ?_ ?_
    · exact leaseOf_moved .idle busy (Scheduler.workers_leave _ _)
    · exact fun other apart => leaseOf_stayed apart (Scheduler.workers_leave _ _)
  | released worker index lease record busy known settled =>
    refine .released worker lease (leaseOf_busy busy) rfl ?_ ?_
    · exact leaseOf_moved (.busy index .announcing) busy rfl
    · exact fun other apart => leaseOf_stayed apart rfl
  | retryDue position retry found => exact still _ (by simp)
  | others registry => exact absurd rfl (own registry)

/-- Leasing changes no device. -/
theorem Leasing.devices (leasing : Leasing world after) :
    after.registry.devices = world.registry.devices := by
  cases leasing with
  | kept registry carried => rw [registry]
  | granted worker lease online free changes registry taken others =>
    rw [registry]
    rfl
  | released worker lease held registry gone others =>
    rw [registry]
    exact Registry.devices_unlease _ _

/-- Other parties that leave the leases and the workers alone keep the leases carried. -/
theorem Carrying.follow (carrying : world.Carrying)
    (leases : after.registry.leases = world.registry.leases)
    (workers : after.scheduler.workers = world.scheduler.workers) : after.Carrying := by
  have same : after.leaseOf = world.leaseOf := by
    funext worker
    simp [leaseOf, workers]
  refine ⟨fun worker lease holds => ?_, fun worker other lease lease' holds holds' => ?_⟩
  · rw [leases]
    exact carrying.entered worker lease (same ▸ holds)
  · exact carrying.apart worker other lease lease' (same ▸ holds) (same ▸ holds')

/-- **A step keeps each worker's lease entered, one worker to a device.** -/
theorem Carrying.step (carrying : world.Carrying) (leasing : Leasing world after) :
    after.Carrying := by
  cases leasing with
  | kept registry carried =>
    refine ⟨fun worker lease holds => ?_, fun worker other lease lease' holds holds' same => ?_⟩
    · rw [registry]
      exact carrying.entered worker lease (carried worker lease holds)
    · exact carrying.apart worker other lease lease' (carried worker lease holds)
        (carried other lease' holds') same
  | granted worker lease online free changes registry taken others =>
    have before : ∀ other held, other ≠ worker → after.leaseOf other = some held →
        world.leaseOf other = some held ∧ held.deviceId ≠ lease.deviceId := by
      intro other held apart holds
      rw [others other apart] at holds
      refine ⟨holds, fun same => ?_⟩
      have entry := carrying.entered other held holds
      rw [same, free] at entry
      cases entry
    have own : ∀ held, after.leaseOf worker = some held → held = lease := fun held holds =>
      Option.some.inj (holds.symm.trans taken)
    refine ⟨fun other held holds => ?_, fun other third held held' holds holds' same => ?_⟩
    · rw [registry]
      by_cases apart : other = worker
      · subst apart
        obtain rfl := own held holds
        simp [Registry.grant]
      · obtain ⟨earlier, elsewhere⟩ := before other held apart holds
        simpa [Registry.grant, elsewhere] using carrying.entered other held earlier
    · by_cases first : other = worker
      · by_cases second : third = worker
        · exact first.trans second.symm
        · subst first
          obtain rfl := own held holds
          exact absurd same.symm (before third held' second holds').2
      · by_cases second : third = worker
        · subst second
          obtain rfl := own held' holds'
          exact absurd same (before other held first holds).2
        · exact carrying.apart other third held held' (before other held first holds).1
            (before third held' second holds').1 same
  | released worker lease held registry gone others =>
    have before : ∀ other entry, after.leaseOf other = some entry →
        world.leaseOf other = some entry ∧ other ≠ worker := by
      intro other entry holds
      have apart : other ≠ worker := by
        rintro rfl
        rw [gone] at holds
        cases holds
      exact ⟨(others other apart).symm.trans holds, apart⟩
    refine ⟨fun other entry holds => ?_, fun other third entry entry' holds holds' same => ?_⟩
    · obtain ⟨earlier, apart⟩ := before other entry holds
      have elsewhere : entry.deviceId ≠ lease.deviceId := fun same =>
        apart (carrying.apart other worker entry lease earlier held same)
      rw [registry, Registry.leases_unlease_other elsewhere]
      exact carrying.entered other entry earlier
    · exact carrying.apart other third entry entry' (before other entry holds).1
        (before third entry' holds').1 same

end

end SchedulerWorld

end DeviceOrchestrator
