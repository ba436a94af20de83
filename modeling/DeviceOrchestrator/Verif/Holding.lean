import DeviceOrchestrator.Verif.Suspicion

/-!
# Where every lease is

`Carrying` says that the lease of each worker is in the table. Here is the other direction: each
lease of the table is carried by a worker inside a call, or was lost, because the RUNNING
announcement is made outside the `try` whose `finally` releases. So after any run of scheduler,
monitor and polls the table is what the workers carry and what the sink has cost (`Ledger`).
-/
namespace DeviceOrchestrator

open Transition (History)

namespace SchedulerWorld

/-- The lease that a sink costs by raising on a RUNNING announcement. -/
def loses (world : SchedulerWorld) : SchedulerAction → Option Lease
  | .sinkRaised worker =>
    match world.at? worker with
    | some (_, .starting lease _, _) => some lease
    | _ => none
  | _ => none

/-- What a worker carries, it carries on. -/
def Keeps (world after : SchedulerWorld) : Prop :=
  ∀ worker lease, world.leaseOf worker = some lease → after.leaseOf worker = some lease

variable {config : SchedulerConfig} {world after : SchedulerWorld} {action : SchedulerAction}
variable {worker : Nat}

/-- A worker that moves and keeps its lease. -/
theorem Keeps.of_moved {old : Worker} (state : Worker)
    (found : world.scheduler.workers[worker]? = some old)
    (moved : after.scheduler.workers = world.scheduler.workers.set worker state)
    (same : ∀ lease, old.lease = some lease → state.lease = some lease) : Keeps world after := by
  intro other lease carried
  by_cases apart : other = worker
  · subst apart
    rw [leaseOf_moved state found moved]
    apply same
    simpa [leaseOf, found] using carried
  · rwa [leaseOf_stayed apart moved]

/-- A worker that carries nothing may move anywhere. -/
theorem Keeps.of_bare {old : Worker} (state : Worker)
    (found : world.scheduler.workers[worker]? = some old)
    (moved : after.scheduler.workers = world.scheduler.workers.set worker state)
    (bare : old.lease = none) : Keeps world after := by
  apply Keeps.of_moved state found moved
  intro lease carried
  rw [bare] at carried
  cases carried

/-- Workers that stay keep what they carry, whoever joins them. -/
theorem Keeps.of_joined (more : List Worker)
    (joined : after.scheduler.workers = world.scheduler.workers ++ more) : Keeps world after := by
  intro other lease carried
  obtain ⟨state, found, holds⟩ := Option.bind_eq_some_iff.mp carried
  obtain ⟨inside, -⟩ := List.getElem?_eq_some_iff.mp found
  simp [leaseOf, joined, List.getElem?_append_left inside, found, holds]

/-- A worker that unwinds keeps the lease it unwinds with. -/
theorem Keeps.of_unwind {index : Nat} {point : Point} {scheduler : Scheduler}
    {lease : Option Lease} (busy : world.scheduler.workers[worker]? = some (.busy index point))
    (same : scheduler.workers = world.scheduler.workers) (holds : point.lease = lease) :
    Keeps world (world.withScheduler (scheduler.unwind worker index lease)) := by
  cases lease with
  | none =>
    apply Keeps.of_moved .idle busy
    · rw [← same]
      exact Scheduler.workers_leave _ _
    · intro lease carried
      rw [Worker.lease, holds] at carried
      cases carried
  | some lease =>
    apply Keeps.of_moved (.busy index (.releasing lease)) busy
    · rw [← same]
      rfl
    · intro other carried
      rw [Worker.lease, holds] at carried
      exact carried

/-- A worker that requeues keeps its lease. -/
theorem Keeps.of_requeue {index : Nat} {point : Point} {scheduler next : Scheduler}
    {record : TaskRecord} {lease : Option Lease}
    (busy : world.scheduler.workers[worker]? = some (.busy index point))
    (same : scheduler.workers = world.scheduler.workers) (holds : point.lease = lease)
    (went : Scheduler.Requeue scheduler worker index record lease next) :
    Keeps world (world.withScheduler next) := by
  have kept : ∀ held, (Worker.busy index point).lease = some held → lease = some held := by
    intro held carried
    rw [← holds]
    exact carried
  cases went with
  | exhausted error spent =>
    apply Keeps.of_moved (.busy index (.failing lease)) busy _ kept
    rw [← same]
    rfl
  | delayed delay left small =>
    apply Keeps.of_moved (.busy index (.requeueing lease delay)) busy _ kept
    rw [← same]
    rfl
  | overflow left large => exact .of_unwind busy same holds

/-- A worker that takes a token has no lease to lose. -/
theorem Keeps.of_take (taskId : TaskId) (rest : List (Option TaskId))
    (idle : world.scheduler.workers[worker]? = some .idle) :
    Keeps world
      (world.withScheduler (world.scheduler.takeTask world.registry worker taskId rest)) := by
  have went := Scheduler.takeTask_cases world.registry worker taskId rest world.scheduler
  generalize world.scheduler.takeTask world.registry worker taskId rest = after at went ⊢
  cases went with
  | skipped skips => exact .of_bare .idle idle (Scheduler.workers_leave _ _) rfl
  | raised index record error named known unskipped raised =>
    exact .of_bare .idle idle (Scheduler.workers_leave _ _) rfl
  | abandoned index record error named known unskipped =>
    exact .of_bare (.busy index .abandoning) idle rfl rfl
  | acquiring index record named known unskipped =>
    exact .of_bare (.busy index .acquiring) idle rfl rfl

/-- A worker keeps its lease where the sink returns. -/
theorem Keeps.of_sinkReturned {index : Nat} {point : Point} {record : TaskRecord}
    {scheduler : Scheduler} (busy : world.scheduler.workers[worker]? = some (.busy index point))
    (went : world.scheduler.sinkReturned worker index record point = some scheduler) :
    Keeps world (world.withScheduler scheduler) := by
  cases point with
  | abandoning | announcing =>
    cases went
    exact .of_bare .idle busy (Scheduler.workers_leave _ _) rfl
  | starting lease attempt =>
    cases went
    exact .of_moved _ busy rfl fun _ same => same
  | requeueing lease delay | failing lease =>
    cases went
    exact .of_unwind busy rfl (by rfl)
  | acquiring | executing | quarantining | releasing => cases went

/-- A lease leaves its worker only on its release, or when the sink costs it. -/
theorem keeps_step (spared : world.loses action = none)
    (unreleased : ∀ worker, action ≠ .released worker)
    (taken : step config world action = some after) : Keeps world after := by
  have still : ∀ scheduler : Scheduler, scheduler.workers = world.scheduler.workers →
      Keeps world (world.withScheduler scheduler) := fun scheduler same =>
    .of_joined [] (by simp [withScheduler, same])
  cases step_effect taken with
  | submit spec correlationId =>
    apply still
    simp only [Scheduler.submit]
    split <;> rfl
  | start =>
    simp only [Scheduler.start]
    split
    · exact still _ rfl
    · exact .of_joined _ rfl
  | stop =>
    apply still
    simp only [Scheduler.stop]
    split <;> rfl
  | stopped call stopping => exact still _ rfl
  | pill worker rest idle head => exact .of_bare .exited idle rfl rfl
  | take worker taskId rest idle head => exact .of_take taskId rest idle
  | leased worker token index record device attempts busy known free fresh length =>
    exact .of_bare _ busy rfl rfl
  | leaseTimeout worker draw index record after busy known went =>
    exact .of_requeue busy rfl (by rfl) went
  | leaseError worker index record error busy known raised =>
    exact .of_bare .idle busy (Scheduler.workers_leave _ _) rfl
  | sinkReturned worker index point record after busy known went => exact .of_sinkReturned busy went
  | sinkRaised worker index point record after busy known went =>
    have at_ : world.at? worker = some (index, point, record) :=
      at?_eq_some.mpr ⟨busy, known⟩
    cases point with
    | abandoning | announcing =>
      cases went
      exact .of_bare .idle busy (Scheduler.workers_leave _ _) rfl
    | requeueing lease delay | failing lease =>
      cases went
      exact .of_unwind busy rfl (by rfl)
    | starting lease attempt =>
      simp only [loses, at_] at spared
      cases spared
    | acquiring | executing | quarantining | releasing => cases went
  | executed worker outcome draw index lease attempt record ended after busy known same went =>
    cases went with
    | succeeded value => exact .of_moved _ busy rfl fun _ same => same
    | rejected message => exact .of_moved _ busy rfl fun _ same => same
    | blamed outcome reason wired blames online => exact .of_moved _ busy rfl fun _ same => same
    | requeued outcome after fails excused went => exact .of_requeue busy (by rfl) (by rfl) went
  | quarantined worker draw index lease reason record after busy known went =>
    exact .of_requeue busy rfl (by rfl) went
  | quarantineRaised worker index lease reason record busy known =>
    exact .of_moved _ busy rfl fun _ same => same
  | releasedQuietly worker index lease record busy known pending =>
    exact absurd rfl (unreleased worker)
  | released worker index lease record busy known settled => exact absurd rfl (unreleased worker)
  | retryDue position retry found => exact still _ (by simp)
  | others registry => exact .of_joined [] (by simp)

/-- **What one step is to the table**: it stays with what is carried, or one lease is granted,
released or lost. -/
inductive Booking (world after : SchedulerWorld) : Option Lease → Prop
  /-- The registry stays, and every worker keeps what it carries. -/
  | kept (registry : after.registry = world.registry) (same : after.leaseOf = world.leaseOf) :
      Booking world after none
  /-- A worker gets a lease on a free device. -/
  | granted (worker : Nat) (lease : Lease)
      (free : world.registry.leases lease.deviceId = none)
      (registry : after.registry = world.registry.grant lease)
      (taken : after.leaseOf worker = some lease)
      (others : ∀ other, other ≠ worker → after.leaseOf other = world.leaseOf other)
      (keeps : Keeps world after) : Booking world after none
  /-- A worker gives its lease back. -/
  | released (worker : Nat) (lease : Lease) (held : world.leaseOf worker = some lease)
      (registry : after.registry = world.registry.unlease lease)
      (gone : after.leaseOf worker = none)
      (others : ∀ other, other ≠ worker → after.leaseOf other = world.leaseOf other) :
      Booking world after none
  /-- A worker leaves its lease behind. -/
  | lost (worker : Nat) (lease : Lease) (held : world.leaseOf worker = some lease)
      (registry : after.registry = world.registry)
      (gone : after.leaseOf worker = none)
      (others : ∀ other, other ≠ worker → after.leaseOf other = world.leaseOf other) :
      Booking world after (some lease)

/-- A release gives back the lease of its worker. -/
theorem released_step (taken : step config world (.released worker) = some after) :
    Booking world after none := by
  cases step_effect taken with
  | releasedQuietly _ index lease record busy known pending =>
    refine .released worker lease (leaseOf_busy busy) rfl ?_ ?_
    · exact leaseOf_moved .idle busy (Scheduler.workers_leave _ _)
    · exact fun other apart => leaseOf_stayed apart (Scheduler.workers_leave _ _)
  | released _ index lease record busy known settled =>
    refine .released worker lease (leaseOf_busy busy) rfl ?_ ?_
    · exact leaseOf_moved (.busy index .announcing) busy rfl
    · exact fun other apart => leaseOf_stayed apart rfl

/-- A sink that raises on RUNNING costs the lease of its worker. -/
theorem lost_step {lease : Lease} (loss : world.loses action = some lease)
    (taken : step config world action = some after) : Booking world after (some lease) := by
  cases action with
  | sinkRaised worker =>
    simp only [loses] at loss
    split at loss
    · rename_i index held attempt record at_
      obtain rfl := Option.some.inj loss
      obtain ⟨busy, known⟩ := at?_eq_some.mp at_
      cases step_effect taken with
      | sinkRaised _ index' point record' scheduler busy' known' went =>
        obtain ⟨rfl, rfl⟩ : index = index' ∧ Point.starting held attempt = point := by
          simpa using busy.symm.trans busy'
        cases went
        refine .lost worker held (leaseOf_busy busy) rfl ?_ ?_
        · exact leaseOf_moved .idle busy (Scheduler.workers_leave _ _)
        · exact fun other apart => leaseOf_stayed apart (Scheduler.workers_leave _ _)
    · cases loss
  | _ => cases loss

/-- **Every step of the scheduler books.** -/
theorem booking_step (own : ∀ registry, action ≠ .others registry)
    (taken : step config world action = some after) :
    Booking world after (world.loses action) := by
  cases loss : world.loses action with
  | some lease => exact lost_step loss taken
  | none =>
    by_cases unreleased : ∀ worker, action ≠ .released worker
    · have keeps := keeps_step loss unreleased taken
      cases leasing_step own taken with
      | kept registry carried =>
        refine .kept registry ?_
        funext worker
        exact Option.ext fun lease => ⟨carried worker lease, keeps worker lease⟩
      | granted worker lease online free changes registry got others =>
        exact .granted worker lease free registry got others keeps
      | released worker lease held registry gone others =>
        have kept := keeps worker lease held
        rw [gone] at kept
        cases kept
    · simp only [not_forall, not_not] at unreleased
      obtain ⟨worker, rfl⟩ := unreleased
      exact released_step taken

/-- **The table is what is carried and what was lost.** -/
structure Ledger (world : SchedulerWorld) (lost : Lease → Prop) : Prop where
  /-- What is carried is in the table, one worker to a device. -/
  carrying : world.Carrying
  /-- Each entry is a lease of its device, and is carried or lost. -/
  entries : ∀ deviceId lease, world.registry.leases deviceId = some lease →
    lease.deviceId = deviceId ∧ ((∃ worker, world.leaseOf worker = some lease) ∨ lost lease)
  /-- What was lost stays in the table, and nobody carries it. -/
  stuck : ∀ lease, lost lease → world.registry.leases lease.deviceId = some lease ∧
    ∀ worker, world.leaseOf worker ≠ some lease

/-- A ledger at which nothing has happened yet. -/
theorem Ledger.initial : Ledger {} fun _ => False where
  carrying := ⟨nofun, nofun⟩
  entries := nofun
  stuck := nofun

/-- Other parties that leave the leases and the workers alone leave the ledger alone. -/
theorem Ledger.follow {lost : Lease → Prop} (ledger : Ledger world lost)
    (leases : after.registry.leases = world.registry.leases)
    (workers : after.scheduler.workers = world.scheduler.workers) : Ledger after lost := by
  have same : after.leaseOf = world.leaseOf := by
    funext worker
    simp [leaseOf, workers]
  refine ⟨ledger.carrying.follow leases workers, ?_, ?_⟩
  · rw [leases, same]
    exact ledger.entries
  · rw [leases, same]
    exact ledger.stuck

/-- Who carries a lease after a worker gave up its own carried it before. -/
theorem carried_before {lease : Lease} {holder : Nat} (gone : after.leaseOf worker = none)
    (others : ∀ other, other ≠ worker → after.leaseOf other = world.leaseOf other)
    (carried : after.leaseOf holder = some lease) :
    holder ≠ worker ∧ world.leaseOf holder = some lease := by
  by_cases same : holder = worker
  · rw [same, gone] at carried
    cases carried
  · exact ⟨same, by rwa [← others holder same]⟩

/-- **Each entry stays accounted for.** -/
theorem Ledger.entries_step {lost : Lease → Prop} {loss : Option Lease}
    (ledger : Ledger world lost) (booking : Booking world after loss) {deviceId : DeviceId}
    {lease : Lease} (entry : after.registry.leases deviceId = some lease) :
    lease.deviceId = deviceId ∧
      ((∃ worker, after.leaseOf worker = some lease) ∨ loss = some lease ∨ lost lease) := by
  cases booking with
  | kept registry same =>
    rw [registry] at entry
    obtain ⟨own, carried | lost⟩ := ledger.entries deviceId lease entry
    · exact ⟨own, .inl (by rwa [same])⟩
    · exact ⟨own, .inr (.inr lost)⟩
  | granted worker fresh free registry taken others keeps =>
    rw [registry] at entry
    by_cases there : deviceId = fresh.deviceId
    · subst there
      obtain rfl : fresh = lease := by simpa [Registry.grant] using entry
      exact ⟨rfl, .inl ⟨worker, taken⟩⟩
    · obtain ⟨own, ⟨holder, carried⟩ | lost⟩ := ledger.entries deviceId lease
        (by simpa [Registry.grant, there] using entry)
      · exact ⟨own, .inl ⟨holder, keeps holder lease carried⟩⟩
      · exact ⟨own, .inr (.inr lost)⟩
  | released worker given held registry gone others =>
    rw [registry] at entry
    have earlier := Registry.leases_of_unlease entry
    obtain ⟨own, ⟨holder, carried⟩ | lost⟩ := ledger.entries deviceId lease earlier
    · have apart : holder ≠ worker := by
        rintro rfl
        obtain rfl := Option.some.inj (held.symm.trans carried)
        rw [← own] at entry
        exact Registry.unlease_removes entry
      exact ⟨own, .inl ⟨holder, by rwa [others holder apart]⟩⟩
    · exact ⟨own, .inr (.inr lost)⟩
  | lost worker left held registry gone others =>
    rw [registry] at entry
    obtain ⟨own, ⟨holder, carried⟩ | lost⟩ := ledger.entries deviceId lease entry
    · by_cases same : holder = worker
      · subst same
        exact ⟨own, .inr (.inl (held.symm.trans carried))⟩
      · exact ⟨own, .inl ⟨holder, by rwa [others holder same]⟩⟩
    · exact ⟨own, .inr (.inr lost)⟩

/-- **What was lost stays lost.** -/
theorem Ledger.stuck_step {lost : Lease → Prop} {loss : Option Lease}
    (ledger : Ledger world lost) (booking : Booking world after loss) {lease : Lease}
    (before : lost lease) : after.registry.leases lease.deviceId = some lease ∧
      ∀ worker, after.leaseOf worker ≠ some lease := by
  obtain ⟨entry, uncarried⟩ := ledger.stuck lease before
  cases booking with
  | kept registry same =>
    rw [registry, same]
    exact ⟨entry, uncarried⟩
  | granted worker fresh free registry taken others keeps =>
    have there : lease.deviceId ≠ fresh.deviceId := by
      intro same
      rw [same, free] at entry
      cases entry
    refine ⟨by simpa [registry, Registry.grant, there] using entry, fun holder carried => ?_⟩
    by_cases same : holder = worker
    · subst same
      obtain rfl := Option.some.inj (taken.symm.trans carried)
      exact there rfl
    · exact uncarried holder (by rwa [← others holder same])
  | released worker given held registry gone others =>
    have there : lease.deviceId ≠ given.deviceId := by
      intro same
      have own := ledger.carrying.entered worker given held
      rw [← same, entry] at own
      obtain rfl := Option.some.inj own
      exact uncarried worker held
    refine ⟨by rwa [registry, Registry.leases_unlease_other there], fun holder carried => ?_⟩
    exact uncarried holder (carried_before gone others carried).2
  | lost worker left held registry gone others =>
    rw [registry]
    exact ⟨entry, fun holder carried => uncarried holder (carried_before gone others carried).2⟩

/-- A lease that is lost is in the table, and nobody carries it. -/
theorem Ledger.stuck_lost {lost : Lease → Prop} {lease : Lease} (ledger : Ledger world lost)
    (booking : Booking world after (some lease)) :
    after.registry.leases lease.deviceId = some lease ∧
      ∀ worker, after.leaseOf worker ≠ some lease := by
  cases booking with
  | lost worker left held registry gone others =>
    rw [registry]
    refine ⟨ledger.carrying.entered worker lease held, fun holder carried => ?_⟩
    obtain ⟨apart, before⟩ := carried_before gone others carried
    exact apart (ledger.carrying.apart holder worker lease lease before held rfl)

/-- **A step keeps the ledger**, with the lease it loses added to what was lost. -/
theorem Ledger.step {lost : Lease → Prop} {loss : Option Lease} (ledger : Ledger world lost)
    (booking : Booking world after loss) (leasing : Leasing world after) :
    Ledger after fun lease => loss = some lease ∨ lost lease where
  carrying := ledger.carrying.step leasing
  entries _ _ entry := ledger.entries_step booking entry
  stuck lease gone := by
    rcases gone with rfl | before
    · exact ledger.stuck_lost booking
    · exact ledger.stuck_step booking before

end SchedulerWorld

namespace Orchestrator

open SchedulerWorld (Ledger)

/-- The lease that a step cost. -/
def Taken.loses (taken : Taken) : Option Lease :=
  match taken.action with
  | .scheduler action => taken.before.leasing.loses action
  | .health _ => none

/-- The lease was lost at some step of a run. -/
def Lost (past : List Taken) (lease : Lease) : Prop := ∃ taken ∈ past, taken.loses = some lease

variable {config : OrchestratorConfig} {past : List Taken} {orchestrator after : Orchestrator}
variable {action : OrchestratorAction}

/-- What was lost after one more step. -/
theorem lost_cons (taken : Taken) (lease : Lease) :
    Lost (taken :: past) lease ↔ taken.loses = some lease ∨ Lost past lease := by
  simp [Lost]

/-- **A step of the orchestrator keeps the ledger**, with the lease it costs added. -/
theorem ledger_follows {lost : Lease → Prop} (ledger : Ledger orchestrator.leasing lost)
    (stepped : Orchestrator.step config orchestrator action = some after) :
    Ledger after.leasing fun lease =>
      Taken.loses ⟨orchestrator, action, after⟩ = some lease ∨ lost lease := by
  cases step_cases stepped with
  | scheduled action world own answers taken quiet =>
    exact ledger.step (SchedulerWorld.booking_step own taken)
      (SchedulerWorld.leasing_step own taken)
  | reported worker index outcome draw lease reason world health taken registry online waits
      called =>
    have own : ∀ registry, SchedulerAction.executed worker outcome draw ≠ .others registry :=
      nofun
    have scheduled := ledger.step (SchedulerWorld.booking_step own taken)
      (SchedulerWorld.leasing_step own taken)
    refine scheduled.follow ?_ rfl
    have kept := (leases_monitor (by rintro change ⟨⟩) called).1
    rw [registry]
    exact kept
  | monitored action health unprompted taken =>
    have kept := (leases_monitor (fun _ _ => unprompted) taken).1
    have followed : Ledger (Orchestrator.leasing ⟨orchestrator.scheduler, health⟩) lost :=
      ledger.follow kept rfl
    simpa [Taken.loses] using followed

/-- What was lost so far is in the ledger. -/
theorem ledger_step (ledger : Ledger orchestrator.leasing (Lost past))
    (stepped : Orchestrator.step config orchestrator action = some after) :
    Ledger after.leasing (Lost (⟨orchestrator, action, after⟩ :: past)) := by
  have lost : Lost (⟨orchestrator, action, after⟩ :: past) =
      fun lease => Taken.loses ⟨orchestrator, action, after⟩ = some lease ∨ Lost past lease :=
    funext fun lease => propext (lost_cons _ lease)
  rw [lost]
  exact ledger_follows ledger stepped

/-- **Every lease is accounted for.** In every run of scheduler, monitor and polls in which no worker
is cancelled, whatever targets and sinks do otherwise: a device is leased exactly if a worker inside
a call carries the lease, or a sink that raised on its RUNNING announcement has cost it. A device
lost this way is never carried again, and no two workers carry leases on one device. -/
theorem leases_accounted
    (history : History (Orchestrator.step config) (fun _ _ => True) {} past orchestrator) :
    (∀ deviceId lease, orchestrator.registry.leases deviceId = some lease ↔
      lease.deviceId = deviceId ∧
        ((∃ worker, orchestrator.leasing.leaseOf worker = some lease) ∨ Lost past lease)) ∧
      (∀ lease, Lost past lease → ∀ worker held,
        orchestrator.leasing.leaseOf worker = some held → held.deviceId ≠ lease.deviceId) ∧
      ∀ worker other lease lease', orchestrator.leasing.leaseOf worker = some lease →
        orchestrator.leasing.leaseOf other = some lease' →
        lease.deviceId = lease'.deviceId → worker = other := by
  have ledger : Ledger orchestrator.leasing (Lost past) := by
    apply history.invariant fun past orchestrator => Ledger orchestrator.leasing (Lost past)
    · have nothing : Lost [] = fun _ => False := funext fun lease => by simp [Lost]
      rw [nothing]
      exact Ledger.initial
    · intro past state action after _ ledger _ stepped
      exact ledger_step ledger stepped
  refine ⟨fun deviceId lease => ⟨ledger.entries deviceId lease, ?_⟩, ?_, ledger.carrying.apart⟩
  · rintro ⟨rfl, ⟨worker, carried⟩ | lost⟩
    · exact ledger.carrying.entered worker lease carried
    · exact (ledger.stuck lease lost).1
  · intro lease lost worker held carried same
    obtain ⟨entry, uncarried⟩ := ledger.stuck lease lost
    have own := ledger.carrying.entered worker held carried
    rw [same] at own
    obtain rfl := Option.some.inj (entry.symm.trans own)
    exact uncarried worker carried

namespace Scene

/-- The sink raises on the first RUNNING announcement, and a second task gets the other phone. -/
def costly : List OrchestratorAction :=
  [.health (.others (.refresh [{ id := "phone-a" }, { id := "phone-b" }])), .scheduler .start,
    .scheduler (.submit { kind := "android", id := "demo" } "first"), .scheduler (.take 0),
    .scheduler (.leased 0 0), .scheduler (.sinkRaised 0),
    .scheduler (.submit { kind := "android", id := "other" } "second"), .scheduler (.take 0),
    .scheduler (.leased 0 1)]

end Scene

/-- One phone is carried, and the other was lost. -/
theorem leases_accounted_costly : ∃ (past : List Taken) (orchestrator : Orchestrator),
    orchestrator.leasing.leaseOf 0 = some ⟨"phone-b", 1⟩ ∧
      Lost past ⟨"phone-a", 0⟩ ∧
      orchestrator.registry.leases "phone-a" = some ⟨"phone-a", 0⟩ := by
  have passed : (Transition.trace (Transition.guarded (Orchestrator.step Scene.setup)
      fun _ _ => True) [] {} Scene.costly).any (fun reached =>
        decide (reached.2.leasing.leaseOf 0 = some ⟨"phone-b", 1⟩) &&
          reached.1.any fun taken => decide (Taken.loses taken = some ⟨"phone-a", 0⟩)) = true := by
    decide +kernel
  obtain ⟨past, orchestrator, history, shown⟩ := Transition.traces passed
  obtain ⟨carried, lost⟩ := Bool.and_eq_true_iff.mp shown
  obtain ⟨taken, member, loses⟩ := List.any_eq_true.mp lost
  have stuck : Lost past ⟨"phone-a", 0⟩ := ⟨taken, member, of_decide_eq_true loses⟩
  exact ⟨past, orchestrator, of_decide_eq_true carried, stuck,
    ((leases_accounted history).1 _ _).mpr ⟨rfl, .inr stuck⟩⟩

end Orchestrator

end DeviceOrchestrator
